import CatalogIntake.Csv.Scan
import CatalogIntake.Text.Blank
import CatalogIntake.Text.Utf8

namespace CatalogIntake.Csv

open Text

structure Undecodable where
  /-- The record's number; the header has number zero. -/
  record : Nat
  start : Place
  field : Nat
  /-- The first octet of the field that belongs to no character. -/
  index : Nat
  deriving DecidableEq, Repr

def Undecodable.cause (u : Undecodable) : String :=
  s!"invalid UTF-8 in field {u.field} near byte index {u.index}"

def Undecodable.message (u : Undecodable) : String :=
  s!"CSV parse error: record {u.record} (line {u.start.line}, field: {u.field}, " ++
    s!"byte: {u.start.byte}): invalid utf-8: {u.cause}"

/-- The blanks that octets can be: space, tab, line feed, form feed and carriage return. -/
def isBlankOctet (b : UInt8) : Bool := b == 0x20 || b == 0x09 || b == 0x0a || b == 0x0c || b == 0x0d

def trimOctets (field : List UInt8) : List UInt8 :=
  ((field.dropWhile isBlankOctet).reverse.dropWhile isBlankOctet).reverse

/-- Decodes the fields; the error is the first bad field with the index in it. -/
def decodeFields (number : Nat) : List (List UInt8) → Except (Nat × Nat) (List String)
  | [] => .ok []
  | field :: rest =>
    match Utf8.decode field with
    | .error index => .error (number, index)
    | .ok text => (decodeFields (number + 1) rest).map (trim text :: ·)

def decodeRecord (number : Nat) (raw : RawRecord) (fields : List (List UInt8)) :
    Except Undecodable (List String) :=
  (decodeFields 0 fields).mapError fun (field, index) => ⟨number, raw.start, field, index⟩

def decodeRow (number : Nat) (raw : RawRecord) : Except Undecodable (List String) :=
  decodeRecord number raw (raw.fields.map trimOctets)

structure Source where
  header : Except Undecodable (List String)
  rows : List (Except Undecodable (List String))

def read (octets : List UInt8) : Source :=
  match scan octets with
  | [] => ⟨.ok [], []⟩
  | first :: rest =>
    ⟨decodeRecord 0 first first.fields,
      rest.zipIdx.map fun (raw, index) => decodeRow (index + 1) raw⟩

end CatalogIntake.Csv
