import CatalogIntake.Number.Integer

namespace CatalogIntake.Number

structure Decimal where
  unscaled : Int
  scale : Int
  deriving DecidableEq, Repr

namespace Decimal

def ofInt (n : Int) : Decimal := ⟨n, 0⟩

inductive ReadError
  | noDigits
  | integer (cause : IntegerError)
  | exponentOverflow (text : String)
  deriving DecidableEq, Repr

def ReadError.message : ReadError → String
  | .noDigits => "Failed to parse empty string"
  | .integer cause => cause.message
  | .exponentOverflow text => s!"Exponent overflow when parsing '{text}'"

def readMagnitude (value : Nat) : List Char → Except IntegerError Nat
  | [] => .ok value
  | '_' :: rest => readMagnitude value rest
  | c :: rest =>
    match digitValue? c with
    | none => .error .invalidDigit
    | some d => readMagnitude (value * 10 + d) rest

def readUnsigned (digits : List Char) : Except IntegerError Nat :=
  match digits with
  | [] => .error .empty
  | '_' :: _ => .error .invalidDigit
  | _ => readMagnitude 0 digits

def readUnscaled : List Char → Except IntegerError Int
  | '-' :: '+' :: _ => .error .invalidDigit
  | '-' :: digits => (readUnsigned digits).map fun n => -(n : Int)
  | '+' :: '+' :: _ => .error .invalidDigit
  | '+' :: digits => (readUnsigned digits).map fun n => (n : Int)
  | digits => (readUnsigned digits).map fun n => (n : Int)

def isExponentMark (c : Char) : Bool := c == 'e' || c == 'E'

def splitPoint (base : List Char) : List Char × Nat :=
  let lead := base.takeWhile (· != '.')
  match base.dropWhile (· != '.') with
  | [] => (lead, 0)
  | _ :: trail => (lead ++ trail, (trail.filter (· != '_')).length)

/-- Digits with at most one point, then optionally a mark and a decimal exponent. -/
def read (s : String) : Except ReadError Decimal := do
  let cs := s.toList
  let base := cs.takeWhile (!isExponentMark ·)
  let exponent ← match cs.dropWhile (!isExponentMark ·) with
    | [] => pure 0
    | _ :: digits => (readInteger Width.i128 (String.ofList digits)).mapError .integer
  if base.isEmpty then throw .noDigits
  let (digits, places) := splitPoint base
  let scale := (places : Int) - exponent
  if !Width.i64.contains scale then throw (.exponentOverflow s)
  let unscaled ← (readUnscaled digits).mapError .integer
  return ⟨unscaled, scale⟩

structure Layout where
  /-- Most zeros between the point and the first digit. -/
  leadingZeros : Nat
  /-- Most zeros between the last digit and the point. -/
  trailingZeros : Nat

def printed : Layout := ⟨5, 15⟩

def digitsOf (n : Nat) : List Char := Nat.toDigits 10 n

def signOf (n : Int) : List Char := if n < 0 then ['-'] else []

def signedExponent (e : Int) : List Char :=
  (if e < 0 then '-' else '+') :: digitsOf e.natAbs

/-- Puts the point before the last `places` digits, with zeros where digits are missing. -/
def insertPoint (digits : List Char) (places : Nat) : List Char :=
  if places = 0 then digits
  else if places < digits.length then
    digits.take (digits.length - places) ++ '.' :: digits.drop (digits.length - places)
  else '0' :: '.' :: List.replicate (places - digits.length) '0' ++ digits

/-- One digit, the point and the others, then the exponent of the first digit. -/
def exponential (digits : List Char) (scale : Int) : List Char :=
  let exponent : Int := (digits.length : Int) - 1 - scale
  match digits with
  | [] => []
  | [d] => d :: 'E' :: (if exponent < 0 then [] else ['+']) ++ (toString exponent).toList
  | d :: rest => d :: '.' :: rest ++ 'E' :: (if exponent < 0 then [] else ['+'])
      ++ (toString exponent).toList

/-- Zero is written without places; too many leading zeros call for one digit before the point and
an exponent, too many trailing ones for all digits and an exponent. -/
def render (d : Decimal) : String :=
  if d.unscaled = 0 then "0"
  else
    let digits := digitsOf d.unscaled.natAbs
    let body :=
      if d.scale - digits.length > printed.leadingZeros then exponential digits d.scale
      else if -d.scale > printed.trailingZeros then digits ++ 'e' :: signedExponent (-d.scale)
      else if d.scale ≤ 0 then digits ++ List.replicate d.scale.natAbs '0'
      else insertPoint digits d.scale.toNat
    String.ofList (signOf d.unscaled ++ body)

/-- All digits in place, with exactly `scale` places after the point and none if it is negative. -/
def renderPlain (d : Decimal) : String :=
  let digits := digitsOf d.unscaled.natAbs
  let body :=
    if d.scale ≤ 0 then
      if d.unscaled = 0 then ['0'] else digits ++ List.replicate d.scale.natAbs '0'
    else insertPoint digits d.scale.toNat
  String.ofList (signOf d.unscaled ++ body)

/-- Trailing decimal zeros of a positive number; `fuel` bounds how many are counted. -/
def trailingZeros : Nat → Nat → Nat
  | 0, _ => 0
  | fuel + 1, n => if n % 10 = 0 then trailingZeros fuel (n / 10) + 1 else 0

def normalized (d : Decimal) : Decimal :=
  if d.unscaled = 0 then ⟨0, 0⟩
  else
    let zeros := trailingZeros (digitsOf d.unscaled.natAbs).length d.unscaled.natAbs
    ⟨d.unscaled / Nat.pow 10 zeros, d.scale - zeros⟩

end Decimal

end CatalogIntake.Number
