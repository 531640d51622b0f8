import CatalogIntake.Logging.Pattern.Element

namespace CatalogIntake.Pattern

open Text

/-- What is known of a set: how deep it is nested, whether anything is written in it, and whether
it holds what lies beyond ASCII. -/
structure Members where
  depth : Nat
  written : Bool
  beyond : Bool
  deriving DecidableEq, Repr

inductive SetOperation
  | intersection
  | difference
  | symmetricDifference
  deriving DecidableEq, Repr

def SetOperation.apply : SetOperation → Bool → Bool → Bool
  | .intersection, a, b => a && b
  | .difference, a, b => a && !b
  | .symmetricDifference, a, b => a != b

/-- An open bracket: the left operand if an operation was read, and `count` members after it. -/
structure Bracket where
  negated : Bool
  fresh : Bool
  left : Option (SetOperation × Members)
  count : Nat
  members : Members
  deriving DecidableEq, Repr

namespace Bracket

def start (negated : Bool) : Bracket := ⟨negated, true, none, 0, ⟨0, false, false⟩⟩

def add (b : Bracket) (m : Members) : Bracket :=
  { b with
    count := b.count + 1
    members := ⟨max b.members.depth m.depth, b.members.written || m.written,
      b.members.beyond || m.beyond⟩ }

def addMember (b : Bracket) (beyond : Bool) : Bracket := b.add ⟨0, true, beyond⟩

def union (b : Bracket) : Members :=
  if b.count ≤ 1 then b.members else { b.members with depth := b.members.depth + 1 }

def operand (b : Bracket) : Members :=
  match b.left with
  | none => b.union
  | some (operation, l) =>
    let r := b.union
    ⟨max l.depth r.depth + 1, l.written || r.written, operation.apply l.beyond r.beyond⟩

def operate (b : Bracket) (operation : SetOperation) : Bracket :=
  { start b.negated with fresh := false, left := some (operation, b.operand) }

/-- The finished set, unless letter case would have to be known or it would hold single octets. -/
def close (m : Mode) (b : Bracket) : Option Members :=
  let set := b.operand
  let beyond := set.beyond != b.negated
  if m.unicode && m.anyCase && set.written then none
  else if !m.unicode && beyond then none
  else some ⟨set.depth + 1, set.written, beyond⟩

end Bracket

def classNames : List String :=
  ["alnum", "alpha", "ascii", "blank", "cntrl", "digit", "graph", "lower", "print", "punct",
   "space", "upper", "word", "xdigit"]

/-- A named class after its bracket, as in `[:alpha:]`, and whether it is negated. -/
def readClass? : List Char → Option (Bool × List Char)
  | ':' :: rest =>
    let negated := rest.head? == some '^'
    let rest := if negated then rest.drop 1 else rest
    match rest.dropWhile (· != ':') with
    | ':' :: ']' :: after =>
      if classNames.contains (String.ofList (rest.takeWhile (· != ':'))) then some (negated, after)
      else none
    | _ => none
  | _ => none

/-- The character after a hyphen that tells whether the hyphen makes a range; of a comment it is
the first one. -/
def afterHyphen (m : Mode) (cs : List Char) : Option Char :=
  if m.spaced then
    match cs.dropWhile isBlank with
    | '#' :: rest => (rest.dropWhile isBlank).head?
    | rest => rest.head?
  else cs.head?

def readMember (m : Mode) : List Char → Option (Element × List Char)
  | [] => none
  | '\\' :: rest => readEscape m rest
  | c :: rest => some (.literal c false, rest)

def readRangeEnd (m : Mode) (first : Element) (cs : List Char) : Option (List Char) := do
  let (last, rest) ← readMember m (skip m cs)
  match first, last with
  | .literal a _, .literal b _ =>
    if a ≤ b && first.isMember m && last.isMember m then some rest else none
  | _, _ => none

def readRange (m : Mode) (cs : List Char) : Option (List Char) := do
  let (first, rest) ← readMember m cs
  match skip m rest with
  | '-' :: after =>
    if [some ']', some '-'].contains (afterHyphen m after) then
      if first.isMember m then some ('-' :: after) else none
    else readRangeEnd m first after
  | rest => if first.isMember m then some rest else none

def openBracket (m : Mode) (cs : List Char) : Bracket × List Char :=
  match skip m cs with
  | '^' :: rest => (.start true, rest)
  | rest => (.start false, rest)

/-- Reads on to the end of the outermost bracket; a hyphen at the start of a bracket, and a closing
bracket there, are members. -/
def readBrackets (m : Mode) :
    Nat → Bracket → List Bracket → List Char → Option (Members × List Char)
  | 0, _, _, _ => none
  | fuel + 1, b, outer, cs =>
    let inner := { b with fresh := false }
    match skip m cs with
    | [] => none
    | ']' :: rest =>
      if b.fresh && b.count == 0 then readBrackets m fuel (inner.addMember false) outer rest
      else (b.close m).bind fun set =>
        match outer with
        | [] => some (set, rest)
        | parent :: outer => readBrackets m fuel (parent.add set) outer rest
    | '[' :: rest =>
      match readClass? rest with
      | some (beyond, rest) => readBrackets m fuel (inner.addMember beyond) outer rest
      | none =>
        let (nested, rest) := openBracket m rest
        readBrackets m fuel nested (inner :: outer) rest
    | '&' :: '&' :: rest => readBrackets m fuel (b.operate .intersection) outer rest
    | '~' :: '~' :: rest => readBrackets m fuel (b.operate .symmetricDifference) outer rest
    | '-' :: rest =>
      if b.fresh then readBrackets m fuel (b.addMember false) outer rest
      else if rest.head? = some '-' then
        readBrackets m fuel (b.operate .difference) outer (rest.drop 1)
      else (readRange m ('-' :: rest)).bind (readBrackets m fuel (inner.addMember false) outer)
    | rest => (readRange m rest).bind (readBrackets m fuel (inner.addMember false) outer)

def readSet (m : Mode) (cs : List Char) : Option (Members × List Char) :=
  let (b, rest) := openBracket m cs
  readBrackets m (rest.length + 1) b [] rest

end CatalogIntake.Pattern
