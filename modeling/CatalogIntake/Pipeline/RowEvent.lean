import CatalogIntake.Csv.Source
import CatalogIntake.Folder
import CatalogIntake.Product.Row

namespace CatalogIntake

inductive SourceFault
  | cannotOpen (path : String) (error : FileError)
  | unreadableHeader (error : FileError)
  | undecodableHeader (error : Csv.Undecodable)
  | missingColumns (columns : List Column)
  | undecodableRow (rowNumber : Int) (error : Csv.Undecodable)
  deriving DecidableEq, Repr

def SourceFault.text : SourceFault → String
  | .cannotOpen path error => s!"Failed to open import source {path}: {error.text}"
  | .unreadableHeader error => s!"Failed to read header row: {error.text}"
  | .undecodableHeader error => s!"Failed to read header row: {error.message}"
  | .missingColumns columns => missingColumnsText columns
  | .undecodableRow rowNumber error =>
    s!"Failed decoding import source at row {rowNumber}: {error.message}"

inductive RowEvent
  | parsed (record : ProductRecord)
  | rejected (rowNumber : Int) (message : String) (raw : Option String)
  | fault (fault : SourceFault)
  deriving DecidableEq, Repr

namespace RowEvent

def ofRows (layout : Layout) (rowNumber : Int) :
    List (Except Csv.Undecodable (List String)) → List RowEvent
  | [] => []
  | .error u :: _ => [.fault (.undecodableRow rowNumber u)]
  | .ok row :: rest =>
    let event := match layout.read rowNumber row with
      | .ok record => .parsed record
      | .error e => .rejected rowNumber e.message (some (rawRow row))
    event :: ofRows layout (rowNumber + 1) rest

def ofSource (source : Csv.Source) : List RowEvent :=
  match source.header with
  | .error u => [.fault (.undecodableHeader u)]
  | .ok headers =>
    match Layout.ofHeaders headers with
    | .error columns => [.fault (.missingColumns columns)]
    | .ok layout => ofRows layout 1 source.rows

def ofPath (path : String) : Except FileError Folder.Node → List RowEvent
  | .ok (.file octets) => ofSource (Csv.read octets)
  | .ok .directory => [.fault (.unreadableHeader .isDirectory)]
  | .error e => [.fault (.cannotOpen path e)]

end RowEvent

end CatalogIntake
