import CatalogIntake.Product.Column
import CatalogIntake.Product.Record

namespace CatalogIntake

open Number

inductive RowFault
  | missingColumn (column : Column)
  | invalidNumber (column : Column) (value reason : String)
  deriving DecidableEq, Repr

def RowFault.text : RowFault → String
  | .missingColumn column => s!"missing required column '{column.header}'"
  | .invalidNumber column value reason => s!"invalid {column.header} '{value}': {reason}"

structure RowError where
  rowNumber : Int
  fault : RowFault
  deriving DecidableEq, Repr

def RowError.message (e : RowError) : String := s!"row {e.rowNumber}: {e.fault.text}"

namespace Layout

def required (layout : Layout) (row : List String) (column : Column) : Except RowFault String :=
  match layout.field? row column with
  | some text => .ok text
  | none => .error (.missingColumn column)

def priceOf (layout : Layout) (row : List String) : Except RowFault Decimal := do
  let text ← layout.required row .price
  (Decimal.read text).mapError fun e => .invalidNumber .price text e.message

def stockOf (layout : Layout) (row : List String) : Except RowFault Int := do
  let text ← layout.required row .stock
  (readInteger Width.i32 text).mapError fun e => .invalidNumber .stock text e.message

def recordOf (layout : Layout) (rowNumber : Int) (row : List String) :
    Except RowFault ProductRecord := do
  let price ← layout.priceOf row
  let stock ← layout.stockOf row
  return {
    rowNumber := some rowNumber
    internalId := ← layout.required row .internalId
    name := ← layout.required row .name
    description := ← layout.required row .description
    brand := ← layout.required row .brand
    category := ← layout.required row .category
    price
    currency := ← layout.required row .currency
    stock
    ean := ← layout.required row .ean
    color := ← layout.required row .color
    size := ← layout.required row .size
    availability := ← layout.required row .availability }

def read (layout : Layout) (rowNumber : Int) (row : List String) : Except RowError ProductRecord :=
  (layout.recordOf rowNumber row).mapError fun fault => ⟨rowNumber, fault⟩

end Layout

def rawRow (row : List String) : String := ",".intercalate row

end CatalogIntake
