/-!
Comma-separated records in a sequence of octets. Fields may stand between quotation marks, where a
doubled mark is one mark and everything else is text; records end at line feeds and carriage
returns, and empty lines between them are skipped.
-/

namespace CatalogIntake.Csv

def comma : UInt8 := 0x2c
def quoteMark : UInt8 := 0x22
def lineFeed : UInt8 := 0x0a
def carriageReturn : UInt8 := 0x0d

def endsRecord (b : UInt8) : Bool := b == lineFeed || b == carriageReturn

structure Place where
  line : Nat
  byte : Nat
  deriving DecidableEq, Repr

structure RawRecord where
  start : Place
  fields : List (List UInt8)
  deriving DecidableEq, Repr

inductive Mode
  | betweenRecords
  | fieldStart
  | unquoted
  | quoted
  | quoteInQuoted
  deriving DecidableEq, Repr

/-- A reader in the middle of its input; fields and octets are kept last first. -/
structure Scanner where
  mode : Mode
  place : Place
  start : Place
  octets : List UInt8
  fields : List (List UInt8)
  records : List RawRecord
  deriving Repr

namespace Scanner

def put (s : Scanner) (mode : Mode) (b : UInt8) : Scanner :=
  { s with mode, octets := b :: s.octets }

def endField (s : Scanner) : Scanner :=
  { s with mode := .fieldStart, octets := [], fields := s.octets.reverse :: s.fields }

/-- Ends the field and the record; the next record starts at the scanner's place. -/
def endRecord (s : Scanner) : Scanner :=
  { s with
    mode := .betweenRecords
    start := s.place
    octets := []
    fields := []
    records := ⟨s.start, (s.octets.reverse :: s.fields).reverse⟩ :: s.records }

def plain (s : Scanner) (b : UInt8) : Scanner :=
  if b == comma then s.endField
  else if endsRecord b then s.endRecord
  else s.put .unquoted b

def advance (s : Scanner) (b : UInt8) : Scanner :=
  { s with place := ⟨if b == lineFeed then s.place.line + 1 else s.place.line, s.place.byte + 1⟩ }

def atFieldStart (s : Scanner) (b : UInt8) : Scanner :=
  if b == quoteMark then { s with mode := .quoted } else s.plain b

def step (s : Scanner) (b : UInt8) : Scanner :=
  let s := s.advance b
  match s.mode with
  | .betweenRecords => if endsRecord b then s else s.atFieldStart b
  | .fieldStart => s.atFieldStart b
  | .unquoted => s.plain b
  | .quoted => if b == quoteMark then { s with mode := .quoteInQuoted } else s.put .quoted b
  | .quoteInQuoted => if b == quoteMark then s.put .quoted b else s.plain b

def finish (s : Scanner) : List RawRecord :=
  match s.mode with
  | .betweenRecords => s.records.reverse
  | _ => s.endRecord.records.reverse

end Scanner

def byteOrderMark : List UInt8 := [0xef, 0xbb, 0xbf]

def scan (octets : List UInt8) : List RawRecord :=
  let marked := byteOrderMark.isPrefixOf octets
  let first : Place := ⟨1, 0⟩
  let start : Scanner :=
    ⟨.betweenRecords, ⟨1, if marked then 3 else 0⟩, first, [], [], []⟩
  ((if marked then octets.drop 3 else octets).foldl Scanner.step start).finish

end CatalogIntake.Csv
