import CatalogIntake.Number.Double

namespace CatalogIntake

open Number

inductive Json
  | null
  | bool (value : Bool)
  | integer (value : Int)
  | double (value : Double)
  | string (value : String)
  | array (items : List Json)
  | object (members : List (String × Json))
  deriving Inhabited, Repr

namespace Json

abbrev Members := List (String × Json)

def nat (n : Nat) : Json := .integer n

def option {α : Type} (encode : α → Json) : Option α → Json
  | none => .null
  | some a => encode a

def list {α : Type} (encode : α → Json) (items : List α) : Json := .array (items.map encode)

def lookup? (name : String) (members : Members) : Option Json :=
  (members.filter (·.1 == name)).getLast?.map (·.2)

def insert (name : String) (value : Json) : Members → Members
  | [] => [(name, value)]
  | (key, old) :: rest =>
    if key = name then (key, value) :: rest else (key, old) :: insert name value rest

/-- One member for each name, the last value given to it, in the order of the names. -/
def sortedMembers (members : Members) : Members :=
  let unique := members.foldl (fun acc m => insert m.1 m.2 acc) []
  unique.mergeSort fun a b => decide (a.1 ≤ b.1)

def get? (name : String) : Json → Option Json
  | .object members =>
    match lookup? name members with
    | some .null => none
    | found => found
  | _ => none

def text? : Json → Option String
  | .string s => some s
  | _ => none

def int? : Json → Option Int
  | .integer n => some n
  | _ => none

def items? : Json → Option (List Json)
  | .array items => some items
  | _ => none

def isTrue : Json → Bool
  | .bool b => b
  | _ => false

mutual

/-- Lays `over` on `base`: objects are joined member by member, anything else is replaced. -/
def overlay (base : Json) : Json → Json
  | .object members =>
    match base with
    | .object own => .object (overlayMembers own members)
    | _ => .object members
  | other => other

def overlayMembers (own : Members) : Members → Members
  | [] => own
  | (name, value) :: rest =>
    overlayMembers (insert name (overlay ((lookup? name own).getD .null) value) own) rest

end

end Json

end CatalogIntake
