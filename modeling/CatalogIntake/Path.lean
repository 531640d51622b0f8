import CatalogIntake.Text.Utf8

namespace CatalogIntake

open Text

/-- Octets, with slashes between the names; they need not be a text. -/
structure Path where
  octets : List UInt8
  deriving DecidableEq, Repr

namespace Path

def ofText (s : String) : Path := ⟨Utf8.encode s⟩

def text? (path : Path) : Option String := (Utf8.decode path.octets).toOption

def display (path : Path) : String := Utf8.decodeLossy path.octets

def slash : UInt8 := 0x2f

def isAbsolute (path : Path) : Bool := path.octets.head? = some slash

def join (base path : Path) : Path :=
  if path.isAbsolute || base.octets.isEmpty then path
  else if base.octets.getLast? = some slash then ⟨base.octets ++ path.octets⟩
  else ⟨base.octets ++ slash :: path.octets⟩

end Path

end CatalogIntake
