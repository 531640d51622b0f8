import CatalogIntake.Json.Value
import CatalogIntake.Number.Integer
import CatalogIntake.Text.Quoted

namespace CatalogIntake.Json

open Number

inductive Found
  | null
  | bool (value : Bool)
  | integer (value : Int)
  | double (value : Double)
  | text (value : String)
  | sequence
  | map
  deriving DecidableEq, Repr

def Found.describe : Found → String
  | .null => "null"
  | .bool b => s!"boolean `{b}`"
  | .integer n => s!"integer `{n}`"
  | .double x => s!"floating point `{x.render}`"
  | .text s => "string " ++ Text.quote s
  | .sequence => "sequence"
  | .map => "map"

def found : Json → Found
  | .null => .null
  | .bool b => .bool b
  | .integer n => .integer n
  | .double x => .double x
  | .string s => .text s
  | .array _ => .sequence
  | .object _ => .map

inductive DecodeError
  | wrongType (found : Found) (expected : String)
  | wrongValue (found : Found) (expected : String)
  | wrongLength (length : Nat) (expected : String)
  | missing (field : String)
  | unknownVariant (name : String) (variants : List String)
  | refused (message : String)
  deriving DecidableEq, Repr

def alternatives : List String → String
  | [a] => s!"`{a}`"
  | [a, b] => s!"`{a}` or `{b}`"
  | names => "one of " ++ ", ".intercalate (names.map fun a => s!"`{a}`")

def DecodeError.message : DecodeError → String
  | .wrongType f expected => s!"invalid type: {f.describe}, expected {expected}"
  | .wrongValue f expected => s!"invalid value: {f.describe}, expected {expected}"
  | .wrongLength n expected => s!"invalid length {n}, expected {expected}"
  | .missing field => s!"missing field `{field}`"
  | .unknownVariant name variants =>
    s!"unknown variant `{name}`, expected {alternatives variants}"
  | .refused message => message

abbrev Decoder (α : Type) := Json → Except DecodeError α

def wrongType {α : Type} (value : Json) (expected : String) : Except DecodeError α :=
  .error (.wrongType value.found expected)

def textNamed (expected : String) : Decoder String
  | .string s => .ok s
  | value => wrongType value expected

def text : Decoder String := textNamed "a string"

def boolean : Decoder Bool
  | .bool b => .ok b
  | value => wrongType value "a boolean"

def integerIn (w : Width) (name : String) : Decoder Int
  | .integer n => if w.contains n then .ok n else .error (.wrongValue (.integer n) name)
  | value => wrongType value name

def naturalIn (w : Width) (name : String) : Decoder Nat := fun value =>
  (integerIn w name value).map Int.toNat

def int32 : Decoder Int := integerIn Width.i32 "i32"
def int64 : Decoder Int := integerIn Width.i64 "i64"
def nat32 : Decoder Nat := naturalIn Width.u32 "u32"
def nat64 : Decoder Nat := naturalIn Width.u64 "u64"

def count : Decoder Nat := naturalIn Width.u64 "usize"

def nullable {α : Type} (decode : Decoder α) : Decoder (Option α)
  | .null => .ok none
  | value => (decode value).map some

def items {α : Type} (decode : Decoder α) : Decoder (List α)
  | .array values => values.mapM decode
  | value => wrongType value "a sequence"

/-- One of named alternatives: its name, or an object with the name and null. -/
def variant {α : Type} (names : List String) (read : String → Option α) : Decoder α
  | .string s => choose s
  | .object members =>
    match sortedMembers members with
    | [(name, value)] => do
      let a ← choose name
      match value with
      | .null => return a
      | value => wrongType value "unit"
    | _ => .error (.wrongValue .map "map with a single key")
  | value => wrongType value "string or map"
where
  choose (name : String) : Except DecodeError α :=
    match read name with
    | some a => .ok a
    | none => .error (.unknownVariant name names)

/-- What the fields of an object gave: a value, the faults by field, the fields without a value. -/
structure Harvest (α : Type) where
  value : Option α
  faults : List (String × DecodeError)
  absent : List String

structure Fields (α : Type) where
  size : Nat
  ofMembers : Members → Harvest α
  /-- Takes the items from the front; an error is the number of items that there were. -/
  ofItems : Nat → List Json → Except (DecodeError ⊕ Nat) (α × List Json)

namespace Fields

def pure {α : Type} (a : α) : Fields α where
  size := 0
  ofMembers _ := ⟨some a, [], []⟩
  ofItems _ items := .ok (a, items)

def seq {α β : Type} (f : Fields (α → β)) (x : Fields α) : Fields β where
  size := f.size + x.size
  ofMembers members :=
    let g := f.ofMembers members
    let a := x.ofMembers members
    ⟨g.value.bind fun g => a.value.map g, g.faults ++ a.faults, g.absent ++ a.absent⟩
  ofItems start items := do
    let (g, items) ← f.ofItems start items
    let (a, items) ← x.ofItems (start + f.size) items
    return (g a, items)

instance : Applicative Fields where
  pure := Fields.pure
  seq f x := Fields.seq f (x ())

/-- A field; `absent` is the value of a missing one in an object, `unlisted` in a sequence. -/
def field {α : Type} (name : String) (decode : Decoder α) (absent unlisted : Option α) :
    Fields α where
  size := 1
  ofMembers members :=
    match lookup? name members with
    | some value =>
      match decode value with
      | .ok a => ⟨some a, [], []⟩
      | .error e => ⟨none, [(name, e)], []⟩
    | none =>
      match absent with
      | some a => ⟨some a, [], []⟩
      | none => ⟨none, [], [name]⟩
  ofItems start
    | [] =>
      match unlisted with
      | some a => .ok (a, [])
      | none => .error (.inr start)
    | value :: rest =>
      match decode value with
      | .ok a => .ok (a, rest)
      | .error e => .error (.inl e)

def required {α : Type} (name : String) (decode : Decoder α) : Fields α :=
  field name decode none none

def optional {α : Type} (name : String) (decode : Decoder α) : Fields (Option α) :=
  field name (nullable decode) (some none) none

def defaulted {α : Type} (name : String) (decode : Decoder α) : Fields (Option α) :=
  field name (nullable decode) (some none) (some none)

def Harvest.firstFault {α : Type} (h : Harvest α) : Option DecodeError :=
  match h.faults.mergeSort fun a b => decide (a.1 ≤ b.1) with
  | (_, e) :: _ => some e
  | [] => h.absent.head?.map .missing

end Fields

def record {α : Type} (name : String) (fields : Fields α) : Decoder α
  | .object members =>
    let h := fields.ofMembers members
    match Fields.Harvest.firstFault h, h.value with
    | some e, _ => .error e
    | none, some a => .ok a
    | none, none => .error (.refused name)
  | .array values =>
    match fields.ofItems 0 values with
    | .error (.inl e) => .error e
    | .error (.inr n) =>
      .error (.wrongLength n s!"struct {name} with {fields.size} elements")
    | .ok (a, []) => .ok a
    | .ok (_, _ :: _) => .error (.wrongLength values.length "fewer elements in array")
  | value => wrongType value s!"struct {name}"

end CatalogIntake.Json
