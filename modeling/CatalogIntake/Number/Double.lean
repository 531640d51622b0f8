namespace CatalogIntake.Number

structure Double where
  negative : Bool
  mantissa : Nat
  exponent : Int
  deriving DecidableEq, Repr

namespace Double

def leastExponent : Int := -1074

def greatestExponent : Int := 971

/-- The least mantissa with all 53 bits; a number with a smaller one has the least exponent. -/
def leastFull : Nat := Nat.pow 2 52

def zero : Double := ⟨false, 0, leastExponent⟩

/-- `num / den` in units of `2 ^ exponent`, as a quotient of natural numbers. -/
def inUnits (num den : Nat) (exponent : Int) : Nat × Nat :=
  (num * Nat.pow 2 (-exponent).toNat, den * Nat.pow 2 exponent.toNat)

def roundHalfEven (num den : Nat) : Nat :=
  let quotient := num / den
  let twice := 2 * (num % den)
  if twice < den then quotient
  else if den < twice then quotient + 1
  else quotient + quotient % 2

/-- The exponent at which `num / den` has 53 bits, or the least one there is. -/
def exponentFor (num den : Nat) : Int :=
  let guess : Int := (Nat.log2 num : Int) - Nat.log2 den - 52
  let (n, d) := inUnits num den guess
  max leastExponent (if n / d < leastFull then guess - 1 else guess)

def nearest (negative : Bool) (num den : Nat) : Double :=
  if num = 0 then { zero with negative }
  else
    let exponent := exponentFor num den
    let (n, d) := inUnits num den exponent
    let mantissa := roundHalfEven n d
    if mantissa = 2 * leastFull then ⟨negative, leastFull, exponent + 1⟩
    else ⟨negative, mantissa, exponent⟩

def isFinite (x : Double) : Bool := x.mantissa < leastFull || x.exponent ≤ greatestExponent

def ofInt (n : Int) : Double := nearest (n < 0) n.natAbs 1

def magnitude (x : Double) : Nat × Nat :=
  (x.mantissa * Nat.pow 2 x.exponent.toNat, Nat.pow 2 (-x.exponent).toNat)

def isZero (x : Double) : Bool := x.mantissa == 0

def div (x y : Double) : Double :=
  let (a, b) := x.magnitude
  let (c, d) := y.magnitude
  nearest (x.negative != y.negative) (a * d) (b * c)

def mul (x y : Double) : Double :=
  let (a, b) := x.magnitude
  let (c, d) := y.magnitude
  nearest (x.negative != y.negative) (a * c) (b * d)

def signedNumerator (x : Double) : Int :=
  if x.negative then -(x.magnitude.1 : Int) else x.magnitude.1

def le (x y : Double) : Bool :=
  x.signedNumerator * y.magnitude.2 ≤ y.signedNumerator * x.magnitude.2

def min (x y : Double) : Double := if le x y then x else y

def bits (x : Double) : Nat :=
  let sign := if x.negative then Nat.pow 2 63 else 0
  if x.mantissa < leastFull then sign + x.mantissa
  else sign + (x.exponent + 1075).toNat * leastFull + (x.mantissa - leastFull)

def hex (x : Double) : String :=
  let digits := Nat.toDigits 16 x.bits
  "0x" ++ String.ofList (List.replicate (16 - digits.length) '0' ++ digits)

structure Digits where
  digits : List Char
  point : Int
  deriving DecidableEq, Repr

/-- The numbers that round to one double, in units of a quarter of its last place. -/
structure Interval where
  low : Nat
  value : Nat
  high : Nat
  closed : Bool

def interval (x : Double) : Interval :=
  let value := 4 * x.mantissa
  let below := if x.mantissa = leastFull && x.exponent > leastExponent then 1 else 2
  ⟨value - below, value, value + 2, x.mantissa % 2 = 0⟩

/-- Multiplies a decimal grid point and a binary place so that they compare as natural numbers. -/
def comparable (x : Double) (grid : Int) : Nat × Nat :=
  let unit := x.exponent - 2
  (Nat.pow 10 grid.toNat * Nat.pow 2 (-unit).toNat,
   Nat.pow 2 unit.toNat * Nat.pow 10 (-grid).toNat)

/-- The point of the grid `10 ^ grid` that rounds to `x` and is closest to it, if there is one. -/
def gridPoint (x : Double) (grid : Int) : Option Nat :=
  let (decimal, binary) := comparable x grid
  let i := interval x
  let inside := fun c =>
    let n := c * decimal
    if i.closed then i.low * binary ≤ n && n ≤ i.high * binary
    else i.low * binary < n && n < i.high * binary
  let below := i.value * binary / decimal
  let above := below + 1
  match inside below, inside above with
  | false, false => none
  | true, false => some below
  | false, true => some above
  | true, true =>
    let toBelow := i.value * binary - below * decimal
    let toAbove := above * decimal - i.value * binary
    some (if toBelow < toAbove || (toBelow = toAbove && below % 2 = 0) then below else above)

/-- The number of digits before the point, or minus the number of zeros after it. -/
def decimalPoint (x : Double) : Int :=
  let (num, den) := x.magnitude
  let whole := num / den
  if whole ≠ 0 then (Nat.toDigits 10 whole).length
  else
    let scaled := num * Nat.pow 10 400 / den
    (Nat.toDigits 10 scaled).length - (400 : Int)

def shortestFrom (x : Double) (point : Int) : Nat → Nat → Option (Nat × Int)
  | 0, _ => none
  | fuel + 1, count =>
    let grid := point - count
    match gridPoint x grid with
    | some c => some (c, grid)
    | none => shortestFrom x point fuel (count + 1)

def dropTrailingZeros (digits : List Char) : List Char :=
  (digits.reverse.dropWhile (· == '0')).reverse

def shortest (x : Double) : Digits :=
  if x.isZero then ⟨['0'], 1⟩
  else match shortestFrom x x.decimalPoint 18 1 with
    | none => ⟨['0'], 1⟩
    | some (c, grid) =>
      let all := Nat.toDigits 10 c
      ⟨dropTrailingZeros all, all.length + grid⟩

def positional (d : Digits) : List Char :=
  let n := d.digits.length
  if d.point ≤ 0 then '0' :: '.' :: List.replicate d.point.natAbs '0' ++ d.digits
  else if d.point.toNat < n then d.digits.take d.point.toNat ++ '.' :: d.digits.drop d.point.toNat
  else d.digits ++ List.replicate (d.point.toNat - n) '0' ++ ['.', '0']

def exponentText (n : Int) : List Char :=
  (if n < 0 then '-' else '+') :: Nat.toDigits 10 n.natAbs

def exponential (d : Digits) : List Char :=
  let exponent := exponentText (d.point - 1)
  match d.digits with
  | [] => []
  | [c] => c :: 'e' :: exponent
  | c :: rest => c :: '.' :: rest ++ 'e' :: exponent

def signed (x : Double) (text : List Char) : String :=
  String.ofList (if x.negative then '-' :: text else text)

structure Range where
  least : Int
  greatest : Int

/-- From `0.00001` to below `10 ^ 16` numbers are written without an exponent. -/
def plainRange : Range := ⟨-4, 16⟩

def render (x : Double) : String :=
  let d := shortest x
  signed x (if plainRange.least ≤ d.point && d.point ≤ plainRange.greatest then positional d
    else exponential d)

end Double

end CatalogIntake.Number
