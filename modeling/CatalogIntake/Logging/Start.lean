import CatalogIntake.Folder
import CatalogIntake.Logging.Basic
import CatalogIntake.Logging.Directive

namespace CatalogIntake

open Text

inductive LogStartError
  | badDirective
  | noDirectory
  deriving DecidableEq, Repr

def LogStartError.message : LogStartError → String
  | .badDirective => "Failed to parse filter directive"
  | .noDirectory => "Failed to create log directory"

namespace LogSettings

def directiveList (text : String) : List String :=
  ((text.toList.splitOn ',').map fun cs => trim (String.ofList cs)).filter (· != "")

def directivesValid (s : LogSettings) : Bool :=
  match s.directives with
  | some text => (directiveList text).all Directive.isValid
  | none => true

def fileName (s : LogSettings) (day : String) : String :=
  if s.filePrefix.isEmpty then day else s!"{s.filePrefix}.{day}"

def start (s : LogSettings) (folder : Folder) (day : String) : Except LogStartError Folder :=
  if !s.directivesValid then .error .badDirective
  else if !s.output.writesFile then .ok folder
  else match folder.createDirectory s.dir with
    | .error _ => .error .noDirectory
    | .ok (folder, directory) =>
      .ok ((folder.write directory (s.fileName day) []).toOption.getD folder)

end LogSettings

end CatalogIntake
