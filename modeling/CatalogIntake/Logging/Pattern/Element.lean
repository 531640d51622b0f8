import CatalogIntake.Text.Blank
import CatalogIntake.Text.Digit

namespace CatalogIntake.Pattern

open Text

structure Mode where
  anyCase : Bool
  unicode : Bool
  spaced : Bool
  deriving DecidableEq, Repr

namespace Mode

def initial : Mode := ⟨false, true, false⟩

def set (on : Bool) (m : Mode) : Char → Mode
  | 'i' => { m with anyCase := on }
  | 'u' => { m with unicode := on }
  | 'x' => { m with spaced := on }
  | _ => m

end Mode

inductive Element
  | literal (c : Char) (octet : Bool)
  | anything
  | place
  | wordEdge
  | kind (negated : Bool)
  deriving DecidableEq, Repr

def isAscii (c : Char) : Bool := c.toNat < 0x80

namespace Element

def standsAlone (m : Mode) : Element → Bool
  | .literal c octet => if m.unicode then !m.anyCase else !octet || isAscii c
  | .anything => m.unicode
  | .place => true
  | .wordEdge => !m.unicode
  | .kind negated => !m.unicode && !negated

def isMember (m : Mode) : Element → Bool
  | .literal c _ => m.unicode || isAscii c
  | .kind negated => !m.unicode && !negated
  | _ => false

end Element

def dropSpacing (inComment : Bool) : List Char → List Char
  | [] => []
  | c :: rest =>
    if inComment then dropSpacing (c != '\n') rest
    else if isBlank c then dropSpacing false rest
    else if c = '#' then dropSpacing true rest
    else c :: rest

def skip (m : Mode) (cs : List Char) : List Char := if m.spaced then dropSpacing false cs else cs

def readHex (m : Mode) : Nat → Nat → List Char → Option (Nat × List Char)
  | 0, value, cs => some (value, cs)
  | n + 1, value, c :: rest =>
    (hexValue? c).bind fun digit => readHex m n (value * 16 + digit) (skip m rest)
  | _ + 1, _, [] => none

def readCode (m : Mode) (n : Nat) (cs : List Char) : Option (Element × List Char) := do
  let (value, rest) ← readHex m n 0 (skip m cs)
  if value.isValidChar then some (.literal (Char.ofNat value) (n == 2), rest) else none

def readEscape (m : Mode) : List Char → Option (Element × List Char)
  | [] => none
  | 'x' :: rest => readCode m 2 rest
  | 'u' :: rest => readCode m 4 rest
  | 'U' :: rest => readCode m 8 rest
  | c :: rest =>
    if "dsw".contains c then some (.kind false, rest)
    else if "DSW".contains c then some (.kind true, rest)
    else if "aftnrv".contains c then some (.literal c false, rest)
    else if "Az".contains c then some (.place, rest)
    else if "bB<>".contains c then some (.wordEdge, rest)
    else if isAscii c && !c.isAlphanum then some (.literal c false, rest)
    else none

end CatalogIntake.Pattern
