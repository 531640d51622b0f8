import CatalogIntake.Json.Value
import CatalogIntake.Number.Integer
import CatalogIntake.Text.Digit

namespace CatalogIntake.Json

open Number Text

def isSpace (c : Char) : Bool := c == ' ' || c == '\n' || c == '\t' || c == '\r'

def skipSpace (cs : List Char) : List Char := cs.dropWhile isSpace

def hexUnit? (a b c d : Char) : Option Nat := do
  return (((← hexValue? a) * 16 + (← hexValue? b)) * 16 + (← hexValue? c)) * 16 + (← hexValue? d)

def escaped? : Char → Option Char
  | '"' => some '"'
  | '\\' => some '\\'
  | '/' => some '/'
  | 'b' => some (Char.ofNat 8)
  | 'f' => some (Char.ofNat 12)
  | 'n' => some '\n'
  | 'r' => some '\r'
  | 't' => some '\t'
  | _ => none

/-- The rest of a text after its opening quotation mark, up to the closing one. -/
def readString : List Char → Option (List Char × List Char)
  | [] => none
  | '"' :: rest => some ([], rest)
  | '\\' :: 'u' :: a :: b :: c :: d :: rest => do
    let unit ← hexUnit? a b c d
    if 0xd800 ≤ unit && unit < 0xdc00 then
      match rest with
      | '\\' :: 'u' :: e :: f :: g :: h :: rest =>
        let low ← hexUnit? e f g h
        if 0xdc00 ≤ low && low < 0xe000 then
          let (text, rest) ← readString rest
          return (Char.ofNat (0x10000 + (unit - 0xd800) * 0x400 + (low - 0xdc00)) :: text, rest)
        else none
      | _ => none
    else if 0xdc00 ≤ unit && unit < 0xe000 then none
    else
      let (text, rest) ← readString rest
      return (Char.ofNat unit :: text, rest)
  | '\\' :: c :: rest => do
    let char ← escaped? c
    let (text, rest) ← readString rest
    return (char :: text, rest)
  | c :: rest =>
    if c.toNat < 32 then none
    else do
      let (text, rest) ← readString rest
      return (c :: text, rest)

def digitsValue (digits : List Char) : Nat :=
  digits.foldl (fun n c => n * 10 + ((digitValue? c).getD 0)) 0

/-- A number while its digits are read: the digits that fit 64 bits and a power of ten. -/
structure Scaled where
  digits : Nat
  exponent : Int
  /-- A digit did not fit. -/
  full : Bool

namespace Scaled

def empty : Scaled := ⟨0, 0, false⟩

def extended (x : Scaled) (c : Char) : Nat := x.digits * 10 + (digitValue? c).getD 0

def pushWhole (x : Scaled) (c : Char) : Scaled :=
  if x.full || !Width.u64.contains (x.extended c) then
    { x with exponent := x.exponent + 1, full := true }
  else { x with digits := x.extended c }

def pushFraction (x : Scaled) (c : Char) : Scaled :=
  if x.full || !Width.u64.contains (x.extended c) then { x with full := true }
  else { x with digits := x.extended c, exponent := x.exponent - 1 }

def ofDigits (whole fraction : List Char) : Scaled :=
  fraction.foldl pushFraction { whole.foldl pushWhole empty with full := false }

/-- The greatest power of ten by which a double is multiplied or divided at once. -/
def greatestPower : Nat := 308

def power (n : Nat) : Double := Double.nearest false (Nat.pow 10 n) 1

/-- Scales step by step, each step rounded; `fuel` bounds the number of divisions. A number that
is too great has no value. -/
def scale (x : Double) (exponent : Int) : Nat → Option Double
  | 0 => some x
  | fuel + 1 =>
    if exponent.natAbs ≤ greatestPower then
      if exponent < 0 then some (x.div (power exponent.natAbs))
      else
        let y := x.mul (power exponent.natAbs)
        if y.isFinite then some y else none
    else if x.isZero then some x
    else if 0 ≤ exponent then none
    else scale (x.div (power greatestPower)) (exponent + greatestPower) fuel

def mostDivisions : Nat := 4

def toDouble (x : Scaled) (negative : Bool) : Option Double :=
  (scale (Double.ofInt x.digits) x.exponent mostDivisions).map fun y => { y with negative }

end Scaled

def readExponent (cs : List Char) : Option (Int × List Char) :=
  let (negative, cs) := match cs with
    | '-' :: rest => (true, rest)
    | '+' :: rest => (false, rest)
    | _ => (false, cs)
  let digits := cs.takeWhile isDigit
  if digits.isEmpty then none
  else
    let n : Int := digitsValue digits
    some (if negative then -n else n, cs.dropWhile isDigit)

def readFraction : List Char → Option (List Char × List Char)
  | '.' :: rest =>
    let digits := rest.takeWhile isDigit
    if digits.isEmpty then none else some (digits, rest.dropWhile isDigit)
  | cs => some ([], cs)

def integer? (negative : Bool) (whole : List Char) : Option Json :=
  let magnitude := digitsValue whole
  let value : Int := if negative then -(magnitude : Int) else magnitude
  if (Width.i64.contains value || Width.u64.contains value) && !(negative && magnitude = 0) then
    some (.integer value)
  else none

def readNumber (cs : List Char) : Option (Json × List Char) := do
  let (negative, cs) := match cs with
    | '-' :: rest => (true, rest)
    | _ => (false, cs)
  let whole := cs.takeWhile isDigit
  if whole.isEmpty || (whole.head? = some '0' && whole.length > 1) then none
  let (fraction, rest) ← readFraction (cs.dropWhile isDigit)
  let marked := rest.head? = some 'e' || rest.head? = some 'E'
  let (exponent, rest) ← if marked then readExponent (rest.drop 1) else some (0, rest)
  match if marked || !fraction.isEmpty then none else integer? negative whole with
  | some n => return (n, rest)
  | none =>
    let x := Scaled.ofDigits whole fraction
    let y ← { x with exponent := x.exponent + exponent }.toDouble negative
    return (.double y, rest)

mutual

def readValue : Nat → List Char → Option (Json × List Char)
  | 0, _ => none
  | fuel + 1, cs =>
    match skipSpace cs with
    | 'n' :: 'u' :: 'l' :: 'l' :: rest => some (.null, rest)
    | 't' :: 'r' :: 'u' :: 'e' :: rest => some (.bool true, rest)
    | 'f' :: 'a' :: 'l' :: 's' :: 'e' :: rest => some (.bool false, rest)
    | '"' :: rest => (readString rest).map fun (text, rest) => (.string (String.ofList text), rest)
    | '[' :: rest =>
      match skipSpace rest with
      | ']' :: rest => some (.array [], rest)
      | rest => (readItems fuel rest).map fun (items, rest) => (.array items, rest)
    | '{' :: rest =>
      match skipSpace rest with
      | '}' :: rest => some (.object [], rest)
      | rest => (readMembers fuel rest).map fun (members, rest) => (.object members, rest)
    | cs => readNumber cs

def readItems : Nat → List Char → Option (List Json × List Char)
  | 0, _ => none
  | fuel + 1, cs => do
    let (item, rest) ← readValue fuel cs
    match skipSpace rest with
    | ',' :: rest =>
      let (items, rest) ← readItems fuel rest
      return (item :: items, rest)
    | ']' :: rest => return ([item], rest)
    | _ => none

def readMembers : Nat → List Char → Option (List (String × Json) × List Char)
  | 0, _ => none
  | fuel + 1, cs => do
    match skipSpace cs with
    | '"' :: rest =>
      let (name, rest) ← readString rest
      match skipSpace rest with
      | ':' :: rest =>
        let (value, rest) ← readValue fuel rest
        let member := (String.ofList name, value)
        match skipSpace rest with
        | ',' :: rest =>
          let (members, rest) ← readMembers fuel rest
          return (member :: members, rest)
        | '}' :: rest => return ([member], rest)
        | _ => none
      | _ => none
    | _ => none

end

/-- The value that the whole text is; each step of reading takes a character. -/
def read (text : String) : Option Json :=
  let cs := text.toList
  match readValue (cs.length + 1) cs with
  | some (value, rest) => if (skipSpace rest).isEmpty then some value else none
  | none => none

end CatalogIntake.Json
