import CatalogIntake.Proofs.Product.Heading
import Mathlib.Data.List.Perm.Basic

/-!
A row gives the record that its fields say, or the first fault among them; and both stay the same
when the columns of a file change places or others are put between them.
-/

namespace CatalogIntake

open Number Text

instance (column : Column) (text : String) : Decidable (column.Names text) :=
  inferInstanceAs (Decidable (_ = _))

namespace Heading

theorem missing_eq (headers : List String) :
    Layout.missing headers =
      Column.all.filter fun column => ∀ text ∈ headers, ¬column.Names text := by
  apply List.filter_congr
  intro column _
  rw [Bool.eq_iff_iff, Option.isNone_iff_eq_none, find?_eq_none_iff, decide_eq_true_iff]

theorem exists_error_iff (headers : List String) :
    (∃ columns, Layout.ofHeaders headers = .error columns) ↔
      ∃ column : Column, ∀ text ∈ headers, ¬column.Names text := by
  constructor
  · rintro ⟨columns, h⟩
    obtain ⟨some_, rfl⟩ := ofHeaders_eq_error_iff.mp h
    obtain ⟨column, hmem⟩ := List.exists_mem_of_ne_nil _ some_
    exact ⟨column, mem_missing_iff.mp hmem⟩
  · rintro ⟨column, unnamed⟩
    have hmem := mem_missing_iff.mpr unnamed
    exact ⟨_, ofHeaders_eq_error_iff.mpr ⟨List.ne_nil_of_mem hmem, rfl⟩⟩

section Rows

variable {headers row : List String} {layout : Layout}

theorem HasField.unique {column : Column} {text other : String}
    (h : HasField headers row column text) (h' : HasField headers row column other) :
    text = other := by
  obtain ⟨position, raw, stands, here, rfl⟩ := h
  obtain ⟨place, found, stands', here', rfl⟩ := h'
  rw [stands.unique stands', here'] at here
  rw [Option.some.inj here]

theorem faultOf?_of_field {column : Column} {text : String} {fault : RowFault}
    (there : layout.field? row column = some text) :
    layout.faultOf? row column = some fault ↔
      ∃ reason, .invalidNumber column text reason = fault ∧ column.Misreads text reason := by
  unfold Layout.faultOf? Column.Misreads
  rw [there]
  cases column <;> simp only [Layout.refusal?_eq_some_iff, reduceCtorEq, true_and, false_and,
    or_false, false_or, and_false, exists_false]
  case price | stock =>
    constructor
    · rintro ⟨e, refused, rfl⟩
      exact ⟨_, rfl, e, refused, rfl⟩
    · rintro ⟨_, rfl, e, refused, rfl⟩
      exact ⟨e, refused, rfl⟩

theorem faultOf?_eq_some_iff (h : Layout.ofHeaders headers = .ok layout) {column : Column}
    {fault : RowFault} :
    layout.faultOf? row column = some fault ↔ Faulty headers row column fault := by
  have hfield : ∀ text, layout.field? row column = some text ↔ HasField headers row column text :=
    fun _ => field?_eq_some_iff h
  cases there : layout.field? row column with
  | none =>
    have absent : ∀ text, ¬HasField headers row column text := by
      intro text has
      rw [(hfield text).mpr has] at there
      cases there
    cases fault <;> simp [Layout.faultOf?, Faulty, there, absent, eq_comm]
  | some text =>
    have has := (hfield text).mp there
    have only : ∀ other, HasField headers row column other ↔ text = other :=
      fun other => ⟨has.unique, fun same => same ▸ has⟩
    rw [faultOf?_of_field there]
    cases fault with
    | missingColumn missing => simp [Faulty, only]
    | invalidNumber named value reason =>
      simp only [Faulty, only, RowFault.invalidNumber.injEq]
      constructor
      · rintro ⟨_, ⟨rfl, rfl, rfl⟩, misread⟩
        exact ⟨rfl, rfl, misread⟩
      · rintro ⟨rfl, rfl, misread⟩
        exact ⟨_, ⟨rfl, rfl, rfl⟩, misread⟩

theorem firstFault_iff (h : Layout.ofHeaders headers = .ok layout) {fault : RowFault} :
    Column.readingOrder.findSome? (layout.faultOf? row) = some fault ↔
      FirstFault headers row fault := by
  rw [List.findSome?_eq_some_iff]
  simp only [faultOf?_eq_some_iff h, Option.eq_none_iff_forall_ne_some, ne_eq, FirstFault]

structure Readable (headers row : List String) : Prop where
  fields : ∀ column, ∃ text, HasField headers row column text
  price : ∃ text price, HasField headers row .price text ∧ Decimal.read text = .ok price
  stock : ∃ text stock, HasField headers row .stock text ∧
    readInteger Width.i32 text = .ok stock

theorem Readable.not_faulty (h : Readable headers row) (column : Column) (fault : RowFault) :
    ¬Faulty headers row column fault := by
  cases fault with
  | missingColumn missing =>
    rintro ⟨-, absent⟩
    obtain ⟨text, has⟩ := h.fields column
    exact absent text has
  | invalidNumber named text reason =>
    rintro ⟨-, has, ⟨rfl, e, refused, -⟩ | ⟨rfl, e, refused, -⟩⟩
    · obtain ⟨value, price, has', read⟩ := h.price
      rw [has.unique has', read] at refused
      cases refused
    · obtain ⟨value, stock, has', read⟩ := h.stock
      rw [has.unique has', read] at refused
      cases refused

theorem Reads.readable {rowNumber : Int} {record : ProductRecord}
    (h : Reads headers row rowNumber record) : Readable headers row where
  fields column := (h.fields column).imp fun _ both => both.1
  price := (h.fields .price).imp fun _ both => ⟨_, both⟩
  stock := (h.fields .stock).imp fun _ both => ⟨_, both⟩

variable (row) in
theorem recordOf_cases (h : Layout.ofHeaders headers = .ok layout) (rowNumber : Int) :
    (∃ fault, layout.recordOf rowNumber row = .error fault ∧ FirstFault headers row fault) ∨
      ∃ record, layout.recordOf rowNumber row = .ok record ∧
        Reads headers row rowNumber record := by
  have settles := layout.recordOf_settles rowNumber row
  cases hrecord : layout.recordOf rowNumber row with
  | error fault =>
    rw [hrecord] at settles
    exact .inl ⟨fault, rfl, (firstFault_iff h).mp settles⟩
  | ok record =>
    rw [hrecord] at settles
    obtain ⟨-, number, fields⟩ := settles
    simp only [field?_eq_some_iff h] at fields
    exact .inr ⟨record, rfl, number, fields⟩

theorem FirstFault.faulty {fault : RowFault} (h : FirstFault headers row fault) :
    ∃ column, Faulty headers row column fault := by
  obtain ⟨-, column, -, -, faulty, -⟩ := h
  exact ⟨column, faulty⟩

theorem exists_record_iff (h : Layout.ofHeaders headers = .ok layout) (rowNumber : Int) :
    (∃ record, layout.read rowNumber row = .ok record) ↔ Readable headers row := by
  rcases recordOf_cases row h rowNumber with
    ⟨fault, hrecord, first⟩ | ⟨record, hrecord, reads⟩
  · obtain ⟨column, faulty⟩ := first.faulty
    simp only [Layout.read, hrecord, Except.mapError, reduceCtorEq, exists_false, false_iff]
    intro readable
    exact readable.not_faulty column fault faulty
  · simp [Layout.read, hrecord, Except.mapError, reads.readable]

theorem reads_of_read (h : Layout.ofHeaders headers = .ok layout) {rowNumber : Int}
    {record : ProductRecord} (hread : layout.read rowNumber row = .ok record) :
    Reads headers row rowNumber record := by
  rcases recordOf_cases row h rowNumber with
    ⟨fault, hrecord, -⟩ | ⟨other, hrecord, reads⟩
  · simp [Layout.read, hrecord, Except.mapError] at hread
  · simp only [Layout.read, hrecord, Except.mapError, Except.ok.injEq] at hread
    rwa [← hread]

theorem FirstFault.unique {fault other : RowFault} (h : Layout.ofHeaders headers = .ok layout)
    (first : FirstFault headers row fault) (first' : FirstFault headers row other) :
    fault = other :=
  Option.some.inj (((firstFault_iff h).mpr first).symm.trans ((firstFault_iff h).mpr first'))

theorem read_eq_error_iff (h : Layout.ofHeaders headers = .ok layout) {rowNumber : Int}
    {e : RowError} :
    layout.read rowNumber row = .error e ↔
      e.rowNumber = rowNumber ∧ FirstFault headers row e.fault := by
  rcases recordOf_cases row h rowNumber with
    ⟨fault, hrecord, first⟩ | ⟨record, hrecord, reads⟩
  · simp only [Layout.read, hrecord, Except.mapError, Except.error.injEq]
    constructor
    · rintro rfl
      exact ⟨rfl, first⟩
    · rintro ⟨rfl, first'⟩
      rw [first.unique h first']
  · simp only [Layout.read, hrecord, Except.mapError, reduceCtorEq, false_iff]
    rintro ⟨-, first⟩
    obtain ⟨column, faulty⟩ := first.faulty
    exact reads.readable.not_faulty column e.fault faulty

end Rows

/-! Rows whose columns stand elsewhere. -/

def readRow (headers : List String) (rowNumber : Int) (row : List String) :
    Except (List Column) (Except RowError ProductRecord) :=
  (Layout.ofHeaders headers).map fun layout => layout.read rowNumber row

def NamedOnce (headers : List String) : Prop :=
  ∀ column : Column, headers.countP column.isHeadedBy ≤ 1

/-- The fields that stand under the header of a column, each with that header. -/
def recognised (headers row : List String) : List (String × String) :=
  (headers.zip row).filter fun pair => Column.all.any (·.isHeadedBy pair.1)

section Pairs

variable {headers row : List String}

theorem recognised_of_names {column : Column} {pair : String × String}
    (names : column.Names pair.1) :
    pair ∈ recognised headers row ↔ pair ∈ headers.zip row := by
  rw [recognised, List.mem_filter, and_iff_left]
  exact List.any_eq_true.mpr ⟨column, column.mem_all, Column.isHeadedBy_iff.mpr names⟩

theorem countP_recognised (column : Column) (long : headers.length ≤ row.length) :
    (recognised headers row).countP (column.isHeadedBy ·.1) =
      headers.countP column.isHeadedBy := by
  unfold recognised
  have hfst : (headers.zip row).map Prod.fst = headers := List.map_fst_zip long
  calc
    _ = (headers.zip row).countP (column.isHeadedBy ·.1) := by
      rw [List.countP_filter]
      apply List.countP_congr
      intro pair _
      simp only [Bool.and_eq_true, List.any_eq_true, and_iff_left_iff_imp]
      exact fun headed => ⟨column, column.mem_all, headed⟩
    _ = ((headers.zip row).map Prod.fst).countP column.isHeadedBy := by
      rw [List.countP_map]
      rfl
    _ = headers.countP column.isHeadedBy := by rw [hfst]

theorem position_unique {α : Type} {p : α → Bool} {items : List α} (once : items.countP p ≤ 1)
    {i j : Nat} {a b : α} (hi : items[i]? = some a) (hj : items[j]? = some b) (ha : p a)
    (hb : p b) : i = j := by
  induction items generalizing i j with
  | nil => simp at hi
  | cons first rest ih =>
    have alone : ∀ {k : Nat} {c : α}, p first → rest[k]? = some c → p c → False := by
      intro k c hfirst hk hc
      rw [List.countP_cons_of_pos hfirst] at once
      have none_ : rest.countP p = 0 := by omega
      exact List.countP_eq_zero.mp none_ c (List.mem_of_getElem? hk) hc
    cases i with
    | zero =>
      cases j with
      | zero => rfl
      | succ j =>
        cases hi
        exact (alone ha hj hb).elim
    | succ i =>
      cases j with
      | zero =>
        cases hj
        exact (alone hb hi ha).elim
      | succ j =>
        have fewer : rest.countP p ≤ 1 :=
          Nat.le_trans ((List.sublist_cons_self first rest).countP_le) once
        rw [ih fewer hi hj]

/-- Where no column is named twice, a field is found by its header alone. -/
theorem hasField_iff (once : NamedOnce headers) {column : Column} {text : String} :
    HasField headers row column text ↔
      ∃ pair ∈ headers.zip row, column.Names pair.1 ∧ trim pair.2 = text := by
  constructor
  · rintro ⟨position, raw, ⟨⟨header, there, names⟩, -⟩, here, htrim⟩
    have both : (headers.zip row)[position]? = some (header, raw) :=
      List.getElem?_zip_eq_some.mpr ⟨there, here⟩
    exact ⟨_, List.mem_of_getElem? both, names, htrim⟩
  · rintro ⟨pair, hmem, names, htrim⟩
    obtain ⟨position, both⟩ := List.mem_iff_getElem?.mp hmem
    obtain ⟨there, here⟩ := List.getElem?_zip_eq_some.mp both
    refine ⟨position, pair.2, ⟨⟨pair.1, there, names⟩, ?_⟩, here, htrim⟩
    intro earlier before text other names'
    have same := position_unique (once column) other there (Column.isHeadedBy_iff.mpr names')
      (Column.isHeadedBy_iff.mpr names)
    omega

end Pairs

section Rearranged

variable {headers headers' row row' : List String}

theorem recordOf_congr {layout layout' : Layout} (rowNumber : Int)
    (h : ∀ column, layout.field? row column = layout'.field? row' column) :
    layout.recordOf rowNumber row = layout'.recordOf rowNumber row' := by
  simp only [Layout.recordOf, Layout.priceOf, Layout.stockOf, Layout.required, h]

theorem readRow_congr (rowNumber : Int)
    (missing : Layout.missing headers = Layout.missing headers')
    (fields : ∀ column text,
      HasField headers row column text ↔ HasField headers' row' column text) :
    readRow headers rowNumber row = readRow headers' rowNumber row' := by
  unfold readRow
  cases h : Layout.ofHeaders headers with
  | error columns =>
    have h' : Layout.ofHeaders headers' = .error columns := by
      rw [ofHeaders_eq_error_iff, ← missing]
      exact ofHeaders_eq_error_iff.mp h
    rw [h']
    rfl
  | ok layout =>
    cases h' : Layout.ofHeaders headers' with
    | error columns =>
      rw [ofHeaders_eq_error_iff, ← missing, ← ofHeaders_eq_error_iff, h] at h'
      cases h'
    | ok layout' =>
      have same : ∀ column, layout.field? row column = layout'.field? row' column := by
        intro column
        apply Option.ext
        intro text
        rw [field?_eq_some_iff h, field?_eq_some_iff h', fields]
      simp only [Except.map, Layout.read, recordOf_congr rowNumber same]

/-- A row is told by the fields under the headers of its columns. -/
theorem readRow_of_recognised (rowNumber : Int) (once : NamedOnce headers)
    (long : headers.length ≤ row.length) (long' : headers'.length ≤ row'.length)
    (perm : (recognised headers' row').Perm (recognised headers row)) :
    readRow headers' rowNumber row' = readRow headers rowNumber row := by
  have counts : ∀ column : Column,
      headers'.countP column.isHeadedBy = headers.countP column.isHeadedBy := by
    intro column
    rw [← countP_recognised column long, ← countP_recognised column long', perm.countP_eq]
  apply readRow_congr
  · rw [missing_eq, missing_eq]
    apply List.filter_congr
    intro column _
    simp only [← Column.isHeadedBy_iff, ← List.countP_eq_zero, counts]
  · intro column text
    have once' : NamedOnce headers' := by
      intro column
      rw [counts]
      exact once column
    rw [hasField_iff once, hasField_iff once']
    constructor
    · rintro ⟨pair, hmem, names, htrim⟩
      rw [← recognised_of_names names, perm.mem_iff, recognised_of_names names] at hmem
      exact ⟨pair, hmem, names, htrim⟩
    · rintro ⟨pair, hmem, names, htrim⟩
      rw [← recognised_of_names names, ← perm.mem_iff, recognised_of_names names] at hmem
      exact ⟨pair, hmem, names, htrim⟩

theorem recognised_perm (perm : (headers'.zip row').Perm (headers.zip row)) :
    (recognised headers' row').Perm (recognised headers row) :=
  perm.filter _

theorem recognised_insert {left right front back : List String} {text field : String}
    (aligned : left.length = front.length) (unknown : ∀ column : Column, ¬column.Names text) :
    recognised (left ++ text :: right) (front ++ field :: back) =
      recognised (left ++ right) (front ++ back) := by
  have unasked : Column.all.any (·.isHeadedBy text) = false := by
    simp [← Bool.not_eq_true, Column.isHeadedBy_iff, unknown]
  unfold recognised
  rw [List.zip_append aligned, List.zip_append aligned, List.zip_cons_cons]
  simp [unasked]

end Rearranged

/-- A file is read by the names of its columns. The header row is refused just when it lacks a
column, with the lacking columns in declared order. Otherwise a row gives a record just when all
fields are there and both numbers are numbers, and then the record of its fields; or else its first
fault. Columns that change places, and columns that nobody asks for, make no difference. -/
theorem rows_read_by_name (headers : List String) :
    ((∃ columns, Layout.ofHeaders headers = .error columns) ↔
      ∃ column : Column, ∀ text ∈ headers, ¬column.Names text) ∧
    (∀ columns, Layout.ofHeaders headers = .error columns →
      columns = Column.all.filter fun column => ∀ text ∈ headers, ¬column.Names text) ∧
    (∀ layout, Layout.ofHeaders headers = .ok layout → ∀ rowNumber row,
      ((∃ record, layout.read rowNumber row = .ok record) ↔ Readable headers row) ∧
      (∀ record, layout.read rowNumber row = .ok record → Reads headers row rowNumber record) ∧
      ∀ e, layout.read rowNumber row = .error e ↔
        e.rowNumber = rowNumber ∧ FirstFault headers row e.fault) ∧
    (NamedOnce headers → ∀ row, headers.length ≤ row.length →
      (∀ headers' row', headers'.length ≤ row'.length →
        (headers'.zip row').Perm (headers.zip row) →
          ∀ rowNumber, readRow headers' rowNumber row' = readRow headers rowNumber row) ∧
      ∀ left right front back text field, headers = left ++ right → row = front ++ back →
        left.length = front.length → (∀ column : Column, ¬column.Names text) →
          ∀ rowNumber, readRow (left ++ text :: right) rowNumber (front ++ field :: back) =
            readRow headers rowNumber row) := by
  refine ⟨exists_error_iff headers, ?_, ?_, ?_⟩
  · intro columns h
    rw [(ofHeaders_eq_error_iff.mp h).2, missing_eq]
  · intro layout h rowNumber row
    exact ⟨exists_record_iff h rowNumber, fun record => reads_of_read h,
      fun e => read_eq_error_iff h⟩
  · intro once row long
    constructor
    · intro headers' row' long' perm rowNumber
      exact readRow_of_recognised rowNumber once long long' (recognised_perm perm)
    · rintro left right front back text field rfl rfl aligned unknown rowNumber
      apply readRow_of_recognised rowNumber once long
      · simp only [List.length_append, List.length_cons] at long ⊢
        omega
      · rw [recognised_insert aligned unknown]

section Teapot

def teapotHeaders : List String :=
  ["STOCK", " price ", "Name", "internal id", "Description", "brand", "Category", "currency",
   "ean", "Color", "size", "availability"]

def teapotRow : List String :=
  [" 12 ", "7.50", "Teapot", "T-1", "With lid", "Acme", "Kitchen", "EUR", "4006381333931",
   "Blue", "", "in_stock"]

def teapot : ProductRecord where
  rowNumber := some 4
  internalId := "T-1"
  name := "Teapot"
  description := "With lid"
  brand := "Acme"
  category := "Kitchen"
  price := ⟨750, 2⟩
  currency := "EUR"
  stock := 12
  ean := "4006381333931"
  color := "Blue"
  size := ""
  availability := "in_stock"

theorem teapot_read_by_name :
    NamedOnce teapotHeaders ∧ (∀ column : Column, ¬column.Names "Index") ∧
      (∃ layout, Layout.ofHeaders teapotHeaders = .ok layout ∧
        layout.read 4 teapotRow = .ok teapot ∧ Reads teapotHeaders teapotRow 4 teapot ∧
        FirstFault teapotHeaders ["many"] (.missingColumn .price)) ∧
      readRow teapotHeaders.reverse 4 teapotRow.reverse = .ok (.ok teapot) ∧
      readRow ("Index" :: teapotHeaders) 4 ("17" :: teapotRow) = .ok (.ok teapot) := by
  have once : NamedOnce teapotHeaders := by
    intro column
    cases column <;> exact Nat.le_of_eq rfl
  have unknown : ∀ column : Column, ¬column.Names "Index" := by
    intro column
    cases column <;> decide
  have hread : readRow teapotHeaders 4 teapotRow = .ok (.ok teapot) := rfl
  obtain ⟨-, -, rows, moved⟩ := rows_read_by_name teapotHeaders
  obtain ⟨permuted, inserted⟩ := moved once teapotRow (Nat.le_of_eq rfl)
  have short := ((rows _ rfl 5 ["many"]).2.2 ⟨5, .missingColumn .price⟩).mp rfl
  refine ⟨once, unknown, ⟨_, rfl, rfl, (rows _ rfl 4 teapotRow).2.1 teapot rfl, short.2⟩, ?_, ?_⟩
  · rw [← hread]
    exact permuted teapotHeaders.reverse teapotRow.reverse (Nat.le_of_eq rfl)
      (List.reverse_perm (teapotHeaders.zip teapotRow)) 4
  · rw [← hread]
    exact inserted [] teapotHeaders [] teapotRow _ _ rfl rfl rfl unknown 4

end Teapot

end Heading

end CatalogIntake
