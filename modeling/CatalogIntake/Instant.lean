import CatalogIntake.Number.Integer
import CatalogIntake.Text.Blank

namespace CatalogIntake

open Number Text

/-- Seconds since the start of 1970 and nanoseconds; a prolonged second has more than `10 ^ 9`. -/
structure Instant where
  second : Int
  nanosecond : Nat
  deriving DecidableEq, Repr, Inhabited

namespace Instant

inductive ReadError
  | outOfRange
  | invalid
  | tooShort
  | tooLong
  deriving DecidableEq, Repr

def ReadError.message : ReadError → String
  | .outOfRange => "input is out of range"
  | .invalid => "input contains invalid characters"
  | .tooShort => "premature end of input"
  | .tooLong => "trailing input"

abbrev Reader (α : Type) := List Char → Except ReadError (α × List Char)

def skipBlank (cs : List Char) : List Char := cs.dropWhile isBlank

/-- Between one and `width` digits, or any number of them when there is no width. -/
def digits (width : Option Nat) : Reader Int := fun cs =>
  let all := cs.takeWhile fun c => (digitValue? c).isSome
  let taken := match width with
    | some w => all.take w
    | none => all
  if cs.isEmpty then .error .tooShort
  else if taken.isEmpty then .error .invalid
  else match readInteger Width.i64 (String.ofList taken) with
    | .ok n => .ok (n, cs.drop taken.length)
    | .error _ => .error .outOfRange

def field (least greatest : Int) : Reader Int := fun cs => do
  let (n, rest) ← digits (some 2) (skipBlank cs)
  if least ≤ n && n ≤ greatest then return (n, rest) else throw .outOfRange

def year : Reader Int := fun cs => do
  let (n, rest) ← match skipBlank cs with
    | '-' :: rest => (digits none rest).map fun (n, rest) => (-n, rest)
    | '+' :: rest => digits none rest
    | rest => digits (some 4) rest
  if Width.i32.contains n then return (n, rest) else throw .outOfRange

def literal (c : Char) : List Char → Except ReadError (List Char)
  | [] => .error .tooShort
  | d :: rest => if c = d then .ok rest else .error .invalid

def separator : List Char → Except ReadError (List Char)
  | [] => .error .tooShort
  | c :: rest => if c = 't' || c = 'T' || c = ' ' then .ok rest else .error .invalid

def fraction : Reader Nat
  | '.' :: rest => do
    let (n, tail) ← digits (some 9) rest
    let taken := rest.length - tail.length
    return (n.toNat * Nat.pow 10 (9 - taken), tail.dropWhile fun c => (digitValue? c).isSome)
  | cs => .ok (0, cs)

def twoDigits : List Char → Option (Nat × List Char)
  | a :: b :: rest =>
    match digitValue? a, digitValue? b with
    | some x, some y => some (x * 10 + y, rest)
    | _, _ => none
  | _ => none

def clockNumber : Reader Nat := fun cs =>
  if (String.ofList cs).utf8ByteSize < 2 then .error .tooShort
  else match twoDigits cs with
    | some found => .ok found
    | none => .error .invalid

def signedOffset (negative : Bool) : Reader Int := fun cs => do
  let (hours, rest) ← clockNumber cs
  let (minutes, rest) ← clockNumber (rest.dropWhile fun c => c = ':' || isBlank c)
  if minutes ≥ 60 then throw .outOfRange
  let seconds : Int := hours * 3600 + minutes * 60
  return (if negative then -seconds else seconds, rest)

def offset : Reader Int := fun cs =>
  match cs with
  | [] => .error .tooShort
  | c :: rest =>
    if (cs.take 3).map Char.toUpper = ['U', 'T', 'C'] then .ok (0, cs.drop 3)
    else if c = 'Z' || c = 'z' then .ok (0, rest)
    else if c = '+' then signedOffset false rest
    else if c = '-' || c.toNat = 0x2212 then signedOffset true rest
    else .error .invalid

def isLeapYear (y : Int) : Bool := y % 4 = 0 && (y % 100 ≠ 0 || y % 400 = 0)

def daysInMonth (y m : Int) : Int :=
  if m = 2 then (if isLeapYear y then 29 else 28)
  else if m = 4 || m = 6 || m = 9 || m = 11 then 30
  else 31

/-- Days since the start of 1970 in the Gregorian calendar. The year is counted from March. -/
def dayNumber (y m d : Int) : Int :=
  let y' := if m ≤ 2 then y - 1 else y
  let era := y' / 400
  let yearOfEra := y' - era * 400
  let dayOfYear := (153 * (m + (if m > 2 then -3 else 9)) + 2) / 5 + d - 1
  let dayOfEra := yearOfEra * 365 + yearOfEra / 4 - yearOfEra / 100 + dayOfYear
  era * 146097 + dayOfEra - 719468

structure Date where
  year : Int
  month : Int
  day : Int
  deriving DecidableEq, Repr

def dateOfDay (n : Int) : Date :=
  let z := n + 719468
  let era := z / 146097
  let dayOfEra := z - era * 146097
  let yearOfEra := (dayOfEra - dayOfEra / 1460 + dayOfEra / 36524 - dayOfEra / 146096) / 365
  let dayOfYear := dayOfEra - (365 * yearOfEra + yearOfEra / 4 - yearOfEra / 100)
  let mp := (5 * dayOfYear + 2) / 153
  let day := dayOfYear - (153 * mp + 2) / 5 + 1
  let month := if mp < 10 then mp + 3 else mp - 9
  ⟨yearOfEra + era * 400 + (if month ≤ 2 then 1 else 0), month, day⟩

def greatestYear : Int := 262142
def leastYear : Int := -262143

def read (s : String) : Except ReadError Instant := do
  let (y, cs) ← year s.toList
  let (m, cs) ← field 1 12 (← literal '-' (skipBlank cs))
  let (d, cs) ← field 1 31 (← literal '-' (skipBlank cs))
  let (hour, cs) ← field 0 23 (← separator cs)
  let (minute, cs) ← field 0 59 (← literal ':' (skipBlank cs))
  let (second, cs) ← field 0 60 (← literal ':' (skipBlank cs))
  let (nanosecond, cs) ← fraction cs
  let (east, cs) ← offset (skipBlank cs)
  if !(skipBlank cs).isEmpty then throw .tooLong
  if y < leastYear || greatestYear < y || daysInMonth y m < d || east.natAbs ≥ 86400 then
    throw .outOfRange
  let prolonged := second = 60
  let clock := hour * 3600 + minute * 60 + (if prolonged then 59 else second) - east
  return ⟨dayNumber y m d * 86400 + clock, nanosecond + (if prolonged then 1000000000 else 0)⟩

def padded (width : Nat) (n : Nat) : String :=
  let digits := Nat.toDigits 10 n
  String.ofList (List.replicate (width - digits.length) '0' ++ digits)

def yearText (y : Int) : String :=
  if 0 ≤ y && y ≤ 9999 then padded 4 y.toNat
  else (if y < 0 then "-" else "+") ++ padded 4 y.natAbs

def fractionText (n : Nat) : String :=
  if n = 0 then ""
  else if n % 1000000 = 0 then "." ++ padded 3 (n / 1000000)
  else if n % 1000 = 0 then "." ++ padded 6 (n / 1000)
  else "." ++ padded 9 n

def dateText (d : Date) : String :=
  yearText d.year ++ "-" ++ padded 2 d.month.toNat ++ "-" ++ padded 2 d.day.toNat

def day (t : Instant) : String := dateText (dateOfDay (t.second / 86400))

def text (t : Instant) : String :=
  let clock := (t.second % 86400).toNat
  let prolonged := t.nanosecond ≥ 1000000000
  let second := clock % 60 + (if prolonged then 1 else 0)
  let nanosecond := if prolonged then t.nanosecond - 1000000000 else t.nanosecond
  t.day ++ "T" ++ padded 2 (clock / 3600) ++ ":" ++ padded 2 (clock / 60 % 60) ++ ":"
    ++ padded 2 second ++ fractionText nanosecond ++ "Z"

end Instant

end CatalogIntake
