import CatalogIntake.Logging.Pattern.CharacterSet
import CatalogIntake.Text.Letter

namespace CatalogIntake.Pattern

open Text

structure Item where
  depth : Nat
  repeatable : Bool
  deriving DecidableEq, Repr

/-- An open group: how deep its complete alternatives are, and the items of the present one, the
last one first. -/
structure Group where
  complete : Option Nat
  items : List Item
  deriving DecidableEq, Repr

namespace Group

def start : Group := ⟨none, []⟩

def push (g : Group) (i : Item) : Group := { g with items := i :: g.items }

def sequenceDepth : List Item → Nat
  | [] => 0
  | [i] => i.depth
  | items => items.foldl (fun d i => max d i.depth) 0 + 1

def depth (g : Group) : Nat :=
  match g.complete with
  | none => sequenceDepth g.items
  | some d => max d (sequenceDepth g.items) + 1

def alternate (g : Group) : Group :=
  ⟨some (max (g.complete.getD 0) (sequenceDepth g.items)), []⟩

def repeatLast? (g : Group) : Option Group :=
  match g.items with
  | ⟨depth, true⟩ :: items => some { g with items := ⟨depth + 1, true⟩ :: items }
  | _ => none

end Group

/-- What has been read: the innermost group, those around it with the switches to go back to, and
the names of the groups so far. -/
structure State where
  mode : Mode
  group : Group
  outer : List (Mode × Group)
  names : List (List Char)
  deriving DecidableEq, Repr

namespace State

def initial : State := ⟨.initial, .start, [], []⟩

def push (s : State) (i : Item) : State := { s with group := s.group.push i }

def enter (s : State) (m : Mode) : State :=
  { s with mode := m, group := .start, outer := (s.mode, s.group) :: s.outer }

def leave? (s : State) : Option State :=
  match s.outer with
  | [] => none
  | (mode, group) :: outer =>
    some { s with mode, group := group.push ⟨s.group.depth + 1, true⟩, outer }

end State

def isGroupName : List Char → Bool
  | [] => false
  | c :: rest =>
    (c == '_' || isAlphabetic c) && rest.all fun d => "_.[]".contains d || isAlphanumeric d

def openNamed (s : State) (cs : List Char) : Option (State × List Char) :=
  let name := cs.takeWhile (· != '>')
  match cs.dropWhile (· != '>') with
  | [] => none
  | _ :: rest =>
    if isGroupName name && !s.names.contains name then
      some ({ s.enter s.mode with names := name :: s.names }, rest)
    else none

/-- The switches as letters, those to turn off after a hyphen; each is named once. -/
def switched? (m : Mode) (letters : List Char) : Option Mode :=
  if letters.all ("imsURux-".contains ·) && decide letters.Nodup
      && letters.getLast? != some '-' then
    let on := (letters.takeWhile (· != '-')).foldl (Mode.set true) m
    some ((letters.dropWhile (· != '-')).foldl (Mode.set false) on)
  else none

/-- Switches after `(?`, either for a group or for the rest of the present one. -/
def readSwitches (s : State) (cs : List Char) : Option (State × List Char) := do
  let isLetter := fun c => c != ':' && c != ')'
  let letters := cs.takeWhile isLetter
  let mode ← switched? s.mode letters
  match cs.dropWhile isLetter with
  | ':' :: rest => some (s.enter mode, rest)
  | ')' :: rest =>
    if letters.isEmpty then none else some ({ s.push ⟨0, false⟩ with mode }, rest)
  | _ => none

def openGroup (s : State) (cs : List Char) : Option (State × List Char) :=
  match skip s.mode cs with
  | '?' :: 'P' :: '<' :: rest => openNamed s rest
  | '?' :: '<' :: rest => openNamed s rest
  | '?' :: rest => readSwitches s rest
  | rest => some (s.enter s.mode, rest)

def single (s : State) (e : Element) : Option State :=
  if e.standsAlone s.mode then some (s.push ⟨0, true⟩) else none

def step (s : State) (c : Char) (rest : List Char) : Option (State × List Char) :=
  match c with
  | '(' => openGroup s rest
  | ')' => s.leave?.map (·, rest)
  | '|' => some ({ s with group := s.group.alternate }, rest)
  | '[' => (readSet s.mode rest).map fun (set, rest) => (s.push ⟨set.depth, true⟩, rest)
  | '\x7b' => none
  | '\\' => do
    let (e, rest) ← readEscape s.mode rest
    return (← single s e, rest)
  | '.' => (single s .anything).map (·, rest)
  | _ =>
    if c = '^' || c = '$' then (single s .place).map (·, rest)
    else if c = '?' || c = '*' || c = '+' then
      s.group.repeatLast?.map fun group =>
        ({ s with group }, if rest.head? = some '?' then rest.drop 1 else rest)
    else (single s (.literal c false)).map (·, rest)

def read : Nat → State → List Char → Option State
  | 0, _, _ => none
  | fuel + 1, s, cs =>
    match skip s.mode cs with
    | [] => some s
    | c :: rest => (step s c rest).bind fun (s, rest) => read fuel s rest

def deepest : Nat := 250

def isValid (cs : List Char) : Bool :=
  (read (cs.length + 1) .initial cs).any fun s => s.outer.isEmpty && s.group.depth ≤ deepest

end CatalogIntake.Pattern
