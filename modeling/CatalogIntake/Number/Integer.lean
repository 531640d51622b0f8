namespace CatalogIntake.Number

inductive IntegerError
  | empty
  | invalidDigit
  | tooLarge
  | tooSmall
  deriving DecidableEq, Repr

def IntegerError.message : IntegerError → String
  | .empty => "cannot parse integer from empty string"
  | .invalidDigit => "invalid digit found in string"
  | .tooLarge => "number too large to fit in target type"
  | .tooSmall => "number too small to fit in target type"

structure Width where
  least : Int
  greatest : Int
  deriving DecidableEq, Repr

namespace Width

def signed (bits : Nat) : Width := ⟨-Nat.pow 2 (bits - 1), Nat.pow 2 (bits - 1) - 1⟩

def unsigned (bits : Nat) : Width := ⟨0, Nat.pow 2 bits - 1⟩

def i32 : Width := signed 32
def i64 : Width := signed 64
def i128 : Width := signed 128
def u32 : Width := unsigned 32
def u64 : Width := unsigned 64

def contains (w : Width) (n : Int) : Bool := w.least ≤ n && n ≤ w.greatest

def wrap (w : Width) (n : Int) : Int := (n - w.least) % (w.greatest - w.least + 1) + w.least

def hold : Option Width → Int → Int
  | none, n => n
  | some w, n => w.wrap n

end Width

def digitValue? (c : Char) : Option Nat :=
  if '0' ≤ c && c ≤ '9' then some (c.toNat - '0'.toNat) else none

def readDigits (w : Width) (sign : Int) (value : Int) : List Char → Except IntegerError Int
  | [] => .ok value
  | c :: rest =>
    match digitValue? c with
    | none => .error .invalidDigit
    | some d =>
      let next := value * 10 + sign * d
      if next > w.greatest then .error .tooLarge
      else if next < w.least then .error .tooSmall
      else readDigits w sign next rest

/-- A sign may precede the digits; the minus sign only in a type with negative values. -/
def readInteger (w : Width) (s : String) : Except IntegerError Int :=
  match s.toList with
  | [] => .error .empty
  | ['+'] => .error .invalidDigit
  | ['-'] => .error .invalidDigit
  | '+' :: digits => readDigits w 1 0 digits
  | '-' :: digits =>
    if w.least < 0 then readDigits w (-1) 0 digits else .error .invalidDigit
  | digits => readDigits w 1 0 digits

end CatalogIntake.Number
