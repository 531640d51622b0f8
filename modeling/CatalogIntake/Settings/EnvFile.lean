import CatalogIntake.Settings.Environment
import CatalogIntake.Text.Letter
import CatalogIntake.Text.Utf8

/-!
Files of environment variables: lines `NAME=value`, with quotes, escapes, comments and references
to other variables. Loading ends at the first malformed line; variables that are set already, by the
environment or by an earlier line, keep their values. A value with a NUL aborts it.
-/

namespace CatalogIntake.EnvFile

open Text

def physicalLines (octets : List UInt8) : List (List Char) :=
  go [] octets
where
  decoded (line : List UInt8) : Option (List Char) :=
    ((Utf8.decode line.reverse).toOption).map String.toList
  go (line : List UInt8) : List UInt8 → List (List Char)
    | [] => if line.isEmpty then [] else (decoded line).toList
    | b :: rest =>
      if b == 0x0a then
        match decoded (b :: line) with
        | some text => text :: go [] rest
        | none => []
      else go (b :: line) rest

inductive LineState
  | complete
  | escape
  | strong
  | strongEscape
  | weak
  | weakEscape
  | blank
  deriving DecidableEq, Repr

namespace LineState

def afterPlain : Char → LineState
  | '\\' => escape
  | '"' => weak
  | '\'' => strong
  | _ => complete

def step (state : LineState) (c : Char) : Option LineState :=
  match state with
  | blank => if c = '#' then none else some (afterPlain c)
  | escape => some complete
  | complete =>
    if isBlank c && c != '\n' && c != '\r' then some blank else some (afterPlain c)
  | weak => some (if c = '\\' then weakEscape else if c = '"' then complete else weak)
  | weakEscape => some weak
  | strong => some (if c = '\\' then strongEscape else if c = '\'' then complete else strong)
  | strongEscape => some strong

end LineState

/-- The state after a line and, if a comment starts in it, the text before the comment. -/
def scanLine (state : LineState) (before : List Char) : List Char → LineState × Option (List Char)
  | [] => (state, none)
  | c :: rest =>
    match state.step c with
    | none => (state, some before.reverse)
    | some next => scanLine next (c :: before) rest

def dropLineEnd (line : List Char) : List Char :=
  match line.reverse with
  | '\n' :: '\r' :: rest => rest.reverse
  | '\n' :: rest => rest.reverse
  | _ => line

/-- Joins physical lines that quotes hold together; an open end is malformed. -/
def logicalLines (state : LineState) (pending : List Char) :
    List (List Char) → List (Option (List Char))
  | [] => if state = .complete then [] else [none]
  | line :: rest =>
    let whole := pending ++ line
    if (whole.dropWhile isBlank).head? = some '#' then some [] :: logicalLines .complete [] rest
    else match scanLine state [] line with
      | (_, some kept) => some (pending ++ kept) :: logicalLines .complete [] rest
      | (.complete, none) => some (dropLineEnd whole) :: logicalLines .complete [] rest
      | (next, none) => logicalLines next whole rest

def isNameStart (c : Char) : Bool := c.isAlpha || c == '_'

def isNamePart (c : Char) : Bool := c.isAlphanum || c == '_' || c == '.'

def readName (cs : List Char) : Option (String × List Char) :=
  match cs with
  | c :: _ =>
    if isNameStart c then some (String.ofList (cs.takeWhile isNamePart), cs.dropWhile isNamePart)
    else none
  | [] => none

inductive Mode
  | plain
  | strong
  | weak
  | escape (inWeak : Bool)
  | reference (inWeak : Bool) (name : List Char)
  | bracedReference (inWeak : Bool) (name : List Char)
  | trailing
  | comment
  deriving DecidableEq, Repr

def Mode.quotedIf (inWeak : Bool) : Mode := if inWeak then weak else plain

structure Value where
  mode : Mode
  text : List Char

def escapedChar? : Char → Option Char
  | 'n' => some '\n'
  | c => if c = '\\' || c = '\'' || c = '"' || c = '$' || c = ' ' then some c else none

def referenced (env : Environment) (name : List Char) : List Char :=
  ((env.get? (String.ofList name.reverse)).getD "").toList

namespace Value

def put (v : Value) (mode : Mode) (c : Char) : Value := ⟨mode, c :: v.text⟩

def substitute (env : Environment) (v : Value) (name : List Char) (mode : Mode) : Value :=
  ⟨mode, (referenced env name).reverse ++ v.text⟩

def plainStep (v : Value) (c : Char) : Value :=
  if c = '$' then { v with mode := .reference false [] }
  else if c = '\'' then { v with mode := .strong }
  else if c = '"' then { v with mode := .weak }
  else if c = '\\' then { v with mode := .escape false }
  else if c = ' ' || c = '\t' then { v with mode := .trailing }
  else v.put .plain c

def step (env : Environment) (v : Value) (c : Char) : Option Value :=
  match v.mode with
  | .comment => some v
  | .trailing =>
    if c = ' ' || c = '\t' then some v
    else if c = '#' then some { v with mode := .comment }
    else none
  | .escape inWeak => (escapedChar? c).map (v.put (.quotedIf inWeak))
  | .strong => some (if c = '\'' then { v with mode := .plain } else v.put .strong c)
  | .weak =>
    some (if c = '$' then { v with mode := .reference true [] }
      else if c = '"' then { v with mode := .plain }
      else if c = '\\' then { v with mode := .escape true }
      else v.put .weak c)
  | .reference inWeak name =>
    if isAlphanumeric c then some { v with mode := .reference inWeak (c :: name) }
    else if c = '\x7b' && name.isEmpty then some { v with mode := .bracedReference inWeak [] }
    else if c = '$' then some (v.substitute env name (.reference inWeak []))
    else some ((v.substitute env name (.quotedIf inWeak)).put (.quotedIf inWeak) c)
  | .bracedReference inWeak name =>
    if c = '\x7d' then some (v.substitute env name (.quotedIf inWeak))
    else some { v with mode := .bracedReference inWeak (c :: name) }
  | .plain => some (v.plainStep c)

def finish (env : Environment) (v : Value) : Option String :=
  match v.mode with
  | .strong | .weak | .escape true | .reference true _ | .bracedReference _ _ => none
  | .reference false name => some (String.ofList (v.substitute env name .plain).text.reverse)
  | _ => some (String.ofList v.text.reverse)

end Value

def readValue (env : Environment) (cs : List Char) : Option String :=
  (cs.foldlM (Value.step env) ⟨.plain, []⟩).bind (Value.finish env)

def skipBlank (cs : List Char) : List Char := cs.dropWhile isBlank

def expectEquals : List Char → Option (List Char)
  | '=' :: rest => some rest
  | _ => none

/-- The name before the equals sign, with or without the word `export` in front. -/
def readTarget (cs : List Char) : Option (String × List Char) := do
  let (name, rest) ← readName cs
  let rest := skipBlank rest
  match expectEquals rest with
  | some rest => return (name, rest)
  | none =>
    if name = "export" then
      let (name, rest) ← readName rest
      let rest ← expectEquals (skipBlank rest)
      return (name, rest)
    else none

inductive Line
  | empty
  | assignment (name value : String)
  deriving DecidableEq, Repr

def readLine (env : Environment) (line : List Char) : Option Line :=
  let cs := skipBlank (dropBlankEnd line)
  if cs.isEmpty || cs.head? = some '#' then some .empty
  else do
    let (name, rest) ← readTarget cs
    let rest := skipBlank rest
    if rest.isEmpty || rest.head? = some '#' then return .assignment name ""
    else return .assignment name (← readValue env rest)

def loadLines (env : Environment) : List (Option (List Char)) → Except Unsettable Environment
  | [] => .ok env
  | none :: _ => .ok env
  | some line :: rest =>
    match readLine env line with
    | none => .ok env
    | some .empty => loadLines env rest
    | some (.assignment name value) =>
      match env.addMissing name value with
      | .ok env => loadLines env rest
      | .error u => .error u

def byteOrderMark : List UInt8 := [0xef, 0xbb, 0xbf]

def load (env : Environment) (octets : List UInt8) : Except Unsettable Environment :=
  let octets := if byteOrderMark.isPrefixOf octets then octets.drop 3 else octets
  loadLines env (logicalLines .complete [] (physicalLines octets))

end CatalogIntake.EnvFile

namespace CatalogIntake

inductive LoadError
  /-- The file gives a variable that is not set such a value, and loading does not return. -/
  | aborted (cause : Unsettable)
  | unusable (error : SettingsError)
  deriving DecidableEq, Repr

def Environment.completed (env : Environment) :
    Option (List UInt8) → Except Unsettable Environment
  | some octets => EnvFile.load env octets
  | none => .ok env

def Settings.load (env : Environment) (envFile : Option (List UInt8)) :
    Except LoadError Settings := do
  let completed ← (env.completed envFile).mapError .aborted
  (ofEnvironment completed).mapError .unusable

end CatalogIntake
