import CatalogIntake.Product.Row
import Mathlib.Data.List.Basic

/-!
What the rows of a file say, told by the names of their columns. A header row lacks the columns
that none of its headers names; with all of them there, a row is read at the first header that
names each column, and the first fault in the order of reading is what is wrong with it. So neither
the order of the columns matters nor what nobody asks for.
-/

namespace CatalogIntake

open Number Text

namespace Column

/-- Without the blanks around it, the text is the column's header up to the case of A to Z. -/
def Names (column : Column) (text : String) : Prop :=
  (trim text).toList.map Char.toLower = column.header.toList.map Char.toLower

theorem isHeadedBy_iff {column : Column} {text : String} :
    column.isHeadedBy text = true ↔ column.Names text := by
  simp [isHeadedBy, equalFolded, Names]

def readingOrder : List Column :=
  .price :: .stock :: all.filter fun column => column ≠ .price && column ≠ .stock

end Column

/-- The number of the column is not to be read from the text, for this reason. -/
def Column.Misreads (column : Column) (text reason : String) : Prop :=
  (column = .price ∧ ∃ e, Decimal.read text = .error e ∧ e.message = reason) ∨
    column = .stock ∧ ∃ e, readInteger Width.i32 text = .error e ∧ e.message = reason

/-- The field of the record that belongs to the column is what the text says. -/
def ProductRecord.Holds (record : ProductRecord) : Column → String → Prop
  | .internalId, text => record.internalId = text
  | .name, text => record.name = text
  | .description, text => record.description = text
  | .brand, text => record.brand = text
  | .category, text => record.category = text
  | .price, text => Decimal.read text = .ok record.price
  | .currency, text => record.currency = text
  | .stock, text => readInteger Width.i32 text = .ok record.stock
  | .ean, text => record.ean = text
  | .color, text => record.color = text
  | .size, text => record.size = text
  | .availability, text => record.availability = text

namespace Heading

structure StandsAt (headers : List String) (column : Column) (position : Nat) : Prop where
  named : ∃ text, headers[position]? = some text ∧ column.Names text
  first : ∀ earlier < position, ∀ text, headers[earlier]? = some text → ¬column.Names text

/-- The row reaches the column, where it has this text without the blanks around it. -/
def HasField (headers row : List String) (column : Column) (text : String) : Prop :=
  ∃ position raw, StandsAt headers column position ∧ row[position]? = some raw ∧ trim raw = text

/-- What is wrong with a column of a row. -/
def Faulty (headers row : List String) (column : Column) : RowFault → Prop
  | .missingColumn missing => missing = column ∧ ∀ text, ¬HasField headers row column text
  | .invalidNumber named text reason =>
    named = column ∧ HasField headers row column text ∧ column.Misreads text reason

def FirstFault (headers row : List String) (fault : RowFault) : Prop :=
  ∃ before column after, Column.readingOrder = before ++ column :: after ∧
    Faulty headers row column fault ∧
      ∀ earlier ∈ before, ∀ other, ¬Faulty headers row earlier other

structure Reads (headers row : List String) (rowNumber : Int) (record : ProductRecord) :
    Prop where
  rowNumber : record.rowNumber = some rowNumber
  fields : ∀ column, ∃ text, HasField headers row column text ∧ record.Holds column text

section Positions

variable {headers row : List String} {column : Column} {position : Nat}

theorem find?_eq_some_iff :
    Layout.find? headers column = some position ↔ StandsAt headers column position := by
  rw [Layout.find?, List.findIdx?_eq_some_iff_getElem]
  constructor
  · rintro ⟨within, named, first⟩
    refine ⟨⟨headers[position], List.getElem?_eq_getElem within, Column.isHeadedBy_iff.mp named⟩,
      ?_⟩
    intro earlier before text here names
    obtain ⟨_, rfl⟩ := List.getElem?_eq_some_iff.mp here
    exact first earlier before (Column.isHeadedBy_iff.mpr names)
  · rintro ⟨⟨text, here, names⟩, first⟩
    obtain ⟨within, rfl⟩ := List.getElem?_eq_some_iff.mp here
    refine ⟨within, Column.isHeadedBy_iff.mpr names, ?_⟩
    intro earlier before named
    exact first earlier before _ (List.getElem?_eq_getElem (Nat.lt_trans before within))
      (Column.isHeadedBy_iff.mp named)

theorem find?_eq_none_iff :
    Layout.find? headers column = none ↔ ∀ text ∈ headers, ¬column.Names text := by
  simp [Layout.find?, List.findIdx?_eq_none_iff, ← Column.isHeadedBy_iff]

theorem mem_missing_iff :
    column ∈ Layout.missing headers ↔ ∀ text ∈ headers, ¬column.Names text := by
  simp [Layout.missing, Column.mem_all, find?_eq_none_iff]

theorem ofHeaders_eq_error_iff {columns : List Column} :
    Layout.ofHeaders headers = .error columns ↔
      columns ≠ [] ∧ columns = Layout.missing headers := by
  unfold Layout.ofHeaders
  split
  · rename_i none_
    rw [none_]
    simp
  · rename_i some_
    constructor
    · intro h
      cases h
      exact ⟨some_, rfl⟩
    · rintro ⟨-, rfl⟩
      rfl

theorem standsAt_position {layout : Layout} (h : Layout.ofHeaders headers = .ok layout)
    (column : Column) : StandsAt headers column (layout.position column) := by
  have there : Layout.find? headers column ≠ none := by
    intro absent
    have lacking := mem_missing_iff.mpr (find?_eq_none_iff.mp absent)
    unfold Layout.ofHeaders at h
    split at h
    · rename_i none_
      rw [none_] at lacking
      cases lacking
    · cases h
  obtain ⟨position, found⟩ := Option.ne_none_iff_exists'.mp there
  unfold Layout.ofHeaders at h
  split at h
  · cases h
    simpa [found] using find?_eq_some_iff.mp found
  · cases h

theorem StandsAt.unique {other : Nat} (h : StandsAt headers column position)
    (h' : StandsAt headers column other) : position = other :=
  Option.some.inj ((find?_eq_some_iff.mpr h).symm.trans (find?_eq_some_iff.mpr h'))

theorem field?_eq_some_iff {layout : Layout} (h : Layout.ofHeaders headers = .ok layout)
    {text : String} :
    layout.field? row column = some text ↔ HasField headers row column text := by
  have stands := standsAt_position h column
  rw [Layout.field?, Option.map_eq_some_iff]
  constructor
  · rintro ⟨raw, here, htrim⟩
    exact ⟨_, raw, stands, here, htrim⟩
  · rintro ⟨position, raw, other, here, htrim⟩
    rw [stands.unique other]
    exact ⟨raw, here, htrim⟩

end Positions

end Heading

namespace Layout

def refusal? {α ε : Type} (column : Column) (read : String → Except ε α) (words : ε → String)
    (text : String) : Option RowFault :=
  match read text with
  | .ok _ => none
  | .error e => some (.invalidNumber column text (words e))

def faultOf? (layout : Layout) (row : List String) (column : Column) : Option RowFault :=
  match layout.field? row column with
  | none => some (.missingColumn column)
  | some text =>
    match column with
    | .price => refusal? .price Decimal.read (·.message) text
    | .stock => refusal? .stock (readInteger Width.i32) (·.message) text
    | _ => none

theorem refusal?_eq_some_iff {α ε : Type} {column : Column} {read : String → Except ε α}
    {words : ε → String} {text : String} {fault : RowFault} :
    refusal? column read words text = some fault ↔
      ∃ e, read text = .error e ∧ .invalidNumber column text (words e) = fault := by
  unfold refusal?
  cases read text <;> simp

def Settles (layout : Layout) (row : List String) (columns : List Column)
    (P : ProductRecord → Prop) : Except RowFault ProductRecord → Prop
  | .error fault => columns.findSome? (layout.faultOf? row) = some fault
  | .ok record => columns.findSome? (layout.faultOf? row) = none ∧ P record

variable {layout : Layout} {row : List String} {columns : List Column} {P : ProductRecord → Prop}

theorem Settles.sound {column : Column} {x : Except RowFault ProductRecord}
    (sound : layout.faultOf? row column = none) (h : layout.Settles row columns P x) :
    layout.Settles row (column :: columns) P x := by
  cases x with
  | error fault => simpa [Settles, sound] using h
  | ok record => simpa [Settles, sound] using h

theorem Settles.faulty {column : Column} {fault : RowFault}
    (faulty : layout.faultOf? row column = some fault) :
    layout.Settles row (column :: columns) P (.error fault) := by
  simp [Settles, faulty]

theorem Settles.required {column : Column} (numberless : column ≠ .price ∧ column ≠ .stock)
    {next : String → Except RowFault ProductRecord}
    (h : ∀ text, layout.field? row column = some text → layout.Settles row columns P (next text)) :
    layout.Settles row (column :: columns) P (layout.required row column >>= next) := by
  unfold Layout.required
  cases hfield : layout.field? row column with
  | none =>
    apply Settles.faulty
    simp [faultOf?, hfield]
  | some text =>
    apply Settles.sound _ (h text hfield)
    cases column <;> simp [faultOf?, hfield] at numberless ⊢

/-- A number is read from the text of its column, and refused with the reader's words. -/
theorem Settles.number {column : Column} {α ε : Type} {read : String → Except ε α}
    {words : ε → String} {next : α → Except RowFault ProductRecord}
    (numeric : ∀ text, layout.field? row column = some text →
      layout.faultOf? row column = refusal? column read words text)
    (h : ∀ text a, layout.field? row column = some text → read text = .ok a →
      layout.Settles row columns P (next a)) :
    layout.Settles row (column :: columns) P ((do
      let text ← layout.required row column
      (read text).mapError fun e => .invalidNumber column text (words e)) >>= next) := by
  unfold Layout.required
  cases hfield : layout.field? row column with
  | none =>
    apply Settles.faulty
    simp [faultOf?, hfield]
  | some text =>
    have hfault := numeric text hfield
    cases hread : read text with
    | error e =>
      simp only [bind, Except.bind, hread, Except.mapError]
      apply Settles.faulty
      simp [hfault, refusal?, hread]
    | ok a =>
      simp only [bind, Except.bind, hread, Except.mapError]
      apply Settles.sound _ (h text a hfield hread)
      simp [hfault, refusal?, hread]

theorem Settles.price {next : Decimal → Except RowFault ProductRecord}
    (h : ∀ text price, layout.field? row .price = some text → Decimal.read text = .ok price →
      layout.Settles row columns P (next price)) :
    layout.Settles row (.price :: columns) P (layout.priceOf row >>= next) := by
  apply Settles.number _ h
  intro text hfield
  simp [faultOf?, hfield]

theorem Settles.stock {next : Int → Except RowFault ProductRecord}
    (h : ∀ text stock, layout.field? row .stock = some text →
      readInteger Width.i32 text = .ok stock → layout.Settles row columns P (next stock)) :
    layout.Settles row (.stock :: columns) P (layout.stockOf row >>= next) := by
  apply Settles.number _ h
  intro text hfield
  simp [faultOf?, hfield]

/-- A record is made of the fields of all columns, looked at in the order of reading. -/
theorem recordOf_settles (layout : Layout) (rowNumber : Int) (row : List String) :
    layout.Settles row Column.readingOrder
      (fun record => record.rowNumber = some rowNumber ∧
        ∀ column, ∃ text, layout.field? row column = some text ∧ record.Holds column text)
      (layout.recordOf rowNumber row) := by
  unfold recordOf
  apply Settles.price
  intro priceText price hprice readsPrice
  apply Settles.stock
  intro stockText stock hstock readsStock
  apply Settles.required (by decide)
  intro internalId hinternalId
  apply Settles.required (by decide)
  intro name hname
  apply Settles.required (by decide)
  intro description hdescription
  apply Settles.required (by decide)
  intro brand hbrand
  apply Settles.required (by decide)
  intro category hcategory
  apply Settles.required (by decide)
  intro currency hcurrency
  apply Settles.required (by decide)
  intro ean hean
  apply Settles.required (by decide)
  intro color hcolor
  apply Settles.required (by decide)
  intro size hsize
  apply Settles.required (by decide)
  intro availability havailability
  refine ⟨rfl, rfl, ?_⟩
  intro column
  cases column with
  | internalId => exact ⟨internalId, hinternalId, rfl⟩
  | name => exact ⟨name, hname, rfl⟩
  | description => exact ⟨description, hdescription, rfl⟩
  | brand => exact ⟨brand, hbrand, rfl⟩
  | category => exact ⟨category, hcategory, rfl⟩
  | price => exact ⟨priceText, hprice, readsPrice⟩
  | currency => exact ⟨currency, hcurrency, rfl⟩
  | stock => exact ⟨stockText, hstock, readsStock⟩
  | ean => exact ⟨ean, hean, rfl⟩
  | color => exact ⟨color, hcolor, rfl⟩
  | size => exact ⟨size, hsize, rfl⟩
  | availability => exact ⟨availability, havailability, rfl⟩

end Layout

end CatalogIntake
