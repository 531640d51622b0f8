import CatalogIntake.Logging.Pattern
import CatalogIntake.Number.Integer

namespace CatalogIntake.Directive

open Number Text

inductive Part
  | start
  | levelOrTarget
  | span
  | field
  | fields
  | target
  | level (text : List Char)
  deriving DecidableEq, Repr

def isNameChar (c : Char) : Bool := isAlphanumeric c || c == '-' || c == ':' || c == '_'

/-- The parser between two characters, with the word so far, last character first. -/
structure State where
  part : Part
  word : List Char
  deriving DecidableEq, Repr

def dropSign : List Char → List Char
  | '+' :: rest => rest
  | '-' :: rest => rest
  | cs => cs

def isExponent (cs : List Char) : Bool :=
  let digits := dropSign cs
  !digits.isEmpty && digits.all isDigit

/-- A decimal number, which may lack the digits on one side of its point, or the name of a value
that is not finite. -/
def isNumber (cs : List Char) : Bool :=
  let body := dropSign cs
  let (fraction, rest) := match body.dropWhile isDigit with
    | '.' :: rest => (rest.takeWhile isDigit, rest.dropWhile isDigit)
    | rest => ([], rest)
  let exponent := match rest with
    | [] => true
    | mark :: rest => (mark == 'e' || mark == 'E') && isExponent rest
  ["inf", "infinity", "nan"].contains (String.ofList (body.map Char.toLower))
    || !(body.takeWhile isDigit ++ fraction).isEmpty && exponent

/-- A field is a name, with a value after the first equals sign; a second one ends the value. -/
def isField (cs : List Char) : Bool :=
  !cs.isEmpty && match cs.splitOn '=' with
    | _ :: value :: _ => isNumber value || Pattern.isValid value
    | _ => true

def step (s : State) (c : Char) : Option State :=
  match s.part with
  | .start =>
    if c = '[' then some ⟨.span, []⟩
    else if isNameChar c then some ⟨.levelOrTarget, [c]⟩
    else none
  | .levelOrTarget =>
    if c = '=' then some ⟨.level [], []⟩
    else if c = '[' then some ⟨.span, []⟩
    else some ⟨.levelOrTarget, c :: s.word⟩
  | .span =>
    if c = ']' then some ⟨.target, []⟩
    else if c = '\x7b' then some ⟨.field, []⟩
    else some ⟨.span, c :: s.word⟩
  | .field =>
    if c = '\x7d' then (if isField s.word.reverse then some ⟨.fields, []⟩ else none)
    else some ⟨.field, c :: s.word⟩
  | .fields => if c = ']' then some ⟨.target, []⟩ else none
  | .target => if c = '=' then some ⟨.level [], []⟩ else none
  | .level text => some ⟨.level (c :: text), []⟩

def levelNames : List String := ["error", "warn", "info", "debug", "trace", "off"]

def isLevel (text : String) : Bool :=
  text.isEmpty || levelNames.contains (String.ofList (text.toList.map Char.toLower))
    || (readInteger Width.u64 text).toOption.any (· ≤ 5)

def finish (s : State) : Bool :=
  match s.part with
  | .level text => isLevel (String.ofList text.reverse)
  | .levelOrTarget => true
  | .target => true
  | _ => false

def isValid (text : String) : Bool := ((text.toList.foldlM step ⟨.start, []⟩).map finish).getD false

end CatalogIntake.Directive
