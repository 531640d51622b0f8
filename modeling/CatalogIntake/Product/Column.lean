import CatalogIntake.Text.Blank

namespace CatalogIntake

open Text

inductive Column
  | internalId
  | name
  | description
  | brand
  | category
  | price
  | currency
  | stock
  | ean
  | color
  | size
  | availability
  deriving DecidableEq, Repr

namespace Column

def all : List Column :=
  [internalId, name, description, brand, category, price, currency, stock, ean, color, size,
   availability]

def header : Column → String
  | internalId => "Internal ID"
  | name => "Name"
  | description => "Description"
  | brand => "Brand"
  | category => "Category"
  | price => "Price"
  | currency => "Currency"
  | stock => "Stock"
  | ean => "EAN"
  | color => "Color"
  | size => "Size"
  | availability => "Availability"

def equalFolded (a b : String) : Bool := a.toList.map Char.toLower == b.toList.map Char.toLower

def isHeadedBy (column : Column) (text : String) : Bool := equalFolded (trim text) column.header

theorem mem_all (column : Column) : column ∈ all := by cases column <;> decide

theorem header_injective {a b : Column} (h : a.header = b.header) : a = b := by
  cases a <;> cases b <;> first | rfl | exact absurd h (by decide)

end Column

structure Layout where
  position : Column → Nat

namespace Layout

def find? (headers : List String) (column : Column) : Option Nat :=
  headers.findIdx? column.isHeadedBy

def missing (headers : List String) : List Column :=
  Column.all.filter fun column => (find? headers column).isNone

/-- The layout that a header row gives, or the columns that it lacks in declared order. -/
def ofHeaders (headers : List String) : Except (List Column) Layout :=
  match missing headers with
  | [] => .ok ⟨fun column => (find? headers column).getD 0⟩
  | columns => .error columns

/-- The column's field without surrounding blanks, if the row is long enough. -/
def field? (layout : Layout) (row : List String) (column : Column) : Option String :=
  row[layout.position column]?.map trim

end Layout

def missingColumnsText (columns : List Column) : String :=
  "header is missing required columns: " ++ ", ".intercalate (columns.map Column.header)

end CatalogIntake
