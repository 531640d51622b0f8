import CatalogIntake.Pipeline.RowEvent
import CatalogIntake.Proofs.Csv.Quoting

/-!
A sheet written with every field in quotation marks is read back row by row: in whatever order its
columns stand, and whatever its lines end with.
-/

namespace CatalogIntake

open Text Number

namespace Text

theorem dropWhile_eq_iff {α : Type} {p : α → Bool} {as : List α} :
    as.dropWhile p = as ↔ ∀ a, as.head? = some a → p a = false := by
  cases as with
  | nil => simp
  | cons a rest =>
    cases hp : p a with
    | true =>
      have hshort : (rest.dropWhile p).length ≤ rest.length := (List.dropWhile_suffix p).length_le
      rw [List.dropWhile_cons_of_pos hp]
      constructor
      · intro heq
        rw [heq, List.length_cons] at hshort
        omega
      · intro h
        rw [h a rfl] at hp
        cases hp
    | false => simp [hp]

theorem length_dropBlankEnd_le (cs : List Char) : (dropBlankEnd cs).length ≤ cs.length := by
  unfold dropBlankEnd
  rw [List.length_reverse, ← cs.length_reverse]
  exact (List.dropWhile_suffix isBlank).length_le

/-- Neither end of a text without surrounding blanks is a blank. -/
theorem ends_of_trim_eq {s : String} (h : trim s = s) :
    (∀ c, s.toList.head? = some c → isBlank c = false) ∧
      ∀ c, s.toList.getLast? = some c → isBlank c = false := by
  have hlist : dropBlankEnd (s.toList.dropWhile isBlank) = s.toList := by
    have htrim := congrArg String.toList h
    rwa [trim, String.toList_ofList] at htrim
  have hstart : s.toList.dropWhile isBlank = s.toList := by
    refine (List.dropWhile_suffix isBlank).eq_of_length_le ?_
    have hle := length_dropBlankEnd_le (s.toList.dropWhile isBlank)
    rwa [hlist] at hle
  have hend : s.toList.reverse.dropWhile isBlank = s.toList.reverse := by
    rw [hstart] at hlist
    have hreverse := congrArg List.reverse hlist
    rwa [dropBlankEnd, List.reverse_reverse] at hreverse
  refine ⟨dropWhile_eq_iff.mp hstart, fun c hc => dropWhile_eq_iff.mp hend c ?_⟩
  rwa [List.head?_reverse]

end Text

namespace Csv

theorem isBlank_of_isBlankOctet {c : Char} {b : UInt8} (hb : b ∈ String.utf8EncodeChar c)
    (hblank : isBlankOctet b) : isBlank c = true := by
  simp only [isBlankOctet, Bool.or_eq_true, beq_iff_eq] at hblank
  have hcode : c.toNat = b.toNat := by
    refine Utf8.octet_of_lt hb ?_
    rcases hblank with (((rfl | rfl) | rfl) | rfl) | rfl <;> decide
  unfold isBlank
  rw [hcode]
  rcases hblank with (((rfl | rfl) | rfl) | rfl) | rfl <;> rfl

theorem trimOctets_encode {s : String} (h : trim s = s) :
    trimOctets (Utf8.encode s) = Utf8.encode s := by
  obtain ⟨hhead, hlast⟩ := ends_of_trim_eq h
  have hstart : (Utf8.encode s).dropWhile isBlankOctet = Utf8.encode s := by
    refine dropWhile_eq_iff.mpr fun b hb => Bool.eq_false_iff.mpr fun hblank => ?_
    rw [Utf8.encode_eq] at hb
    obtain ⟨c, hc, hmem⟩ := Utf8.head?_octets hb
    exact Bool.eq_false_iff.mp (hhead c hc) (isBlank_of_isBlankOctet hmem hblank)
  have hend : (Utf8.encode s).reverse.dropWhile isBlankOctet = (Utf8.encode s).reverse := by
    refine dropWhile_eq_iff.mpr fun b hb => Bool.eq_false_iff.mpr fun hblank => ?_
    rw [List.head?_reverse, Utf8.encode_eq] at hb
    obtain ⟨c, hc, hmem⟩ := Utf8.getLast?_octets hb
    exact Bool.eq_false_iff.mp (hlast c hc) (isBlank_of_isBlankOctet hmem hblank)
  unfold trimOctets
  rw [hstart, hend, List.reverse_reverse]

theorem decodeFields_encode {texts : List String} (h : ∀ text ∈ texts, trim text = text)
    (number : Nat) : decodeFields number (texts.map Utf8.encode) = .ok texts := by
  induction texts generalizing number with
  | nil => rfl
  | cons text rest ih =>
    rw [List.map_cons, decodeFields, Utf8.decode_encode]
    simp only
    rw [ih fun other hother => h other (List.mem_cons_of_mem text hother),
      h text List.mem_cons_self]
    rfl

theorem decodeRecord_encode {texts : List String} (h : ∀ text ∈ texts, trim text = text)
    (number : Nat) (raw : RawRecord) :
    decodeRecord number raw (texts.map Utf8.encode) = .ok texts := by
  unfold decodeRecord
  rw [decodeFields_encode h]
  rfl

theorem decodeRow_encode {raw : RawRecord} {texts : List String}
    (h : ∀ text ∈ texts, trim text = text) (hraw : raw.fields = texts.map Utf8.encode)
    (number : Nat) : decodeRow number raw = .ok texts := by
  have hfields : raw.fields.map trimOctets = texts.map Utf8.encode := by
    rw [hraw, List.map_map]
    exact List.map_congr_left fun text hmem => trimOctets_encode (h text hmem)
  unfold decodeRow
  rw [hfields, decodeRecord_encode h]

theorem decodeRows_encode {raws : List RawRecord} {lines : List Line}
    (htrim : ∀ line ∈ lines, ∀ text ∈ line.fields, trim text = text)
    (hraws : raws.map RawRecord.fields = lines.map fun line => line.fields.map Utf8.encode)
    (first : Nat) :
    (raws.zipIdx first).map (fun (raw, index) => decodeRow (index + 1) raw) =
      lines.map fun line => .ok line.fields := by
  induction raws generalizing lines first with
  | nil =>
    rw [List.map_nil, eq_comm, List.map_eq_nil_iff] at hraws
    rw [hraws]
    rfl
  | cons raw raws ih =>
    cases lines with
    | nil => cases hraws
    | cons line lines =>
      rw [List.map_cons, List.map_cons, List.cons.injEq] at hraws
      have hrest := ih (fun other hother => htrim other (List.mem_cons_of_mem line hother))
        hraws.2 (first + 1)
      rw [List.zipIdx_cons, List.map_cons, hrest, List.map_cons]
      simp only
      rw [decodeRow_encode (htrim line List.mem_cons_self) hraws.1]

theorem read_written (marked : Bool) {header : Line} {lines : List Line}
    (hne : ∀ line ∈ header :: lines, line.fields ≠ [])
    (htrim : ∀ line ∈ header :: lines, ∀ text ∈ line.fields, trim text = text) :
    read (written marked (header :: lines)) =
      ⟨.ok header.fields, lines.map fun line => .ok line.fields⟩ := by
  have hscan := scan_written marked hne
  unfold read
  cases hrecords : scan (written marked (header :: lines)) with
  | nil =>
    rw [hrecords] at hscan
    cases hscan
  | cons first rest =>
    rw [hrecords, List.map_cons, List.map_cons, List.cons.injEq] at hscan
    obtain ⟨hfirst, hrest⟩ := hscan
    simp only
    rw [hfirst, decodeRecord_encode (htrim header List.mem_cons_self),
      decodeRows_encode (fun line hline => htrim line (List.mem_cons_of_mem header hline)) hrest]

end Csv

namespace Layout

theorem trim_header (column : Column) : trim column.header = column.header := by
  cases column <;> rfl

theorem isHeadedBy_header {column other : Column} :
    column.isHeadedBy other.header = true ↔ other = column := by
  unfold Column.isHeadedBy
  rw [trim_header]
  constructor
  · intro h
    cases column <;> cases other <;> first | rfl | exact absurd h (by decide)
  · rintro rfl
    exact beq_self_eq_true _

variable {columns : List Column}

theorem find?_headers {column : Column} (h : column ∈ columns) :
    ∃ i, find? (columns.map Column.header) column = some i ∧ columns[i]? = some column := by
  have hsome : (find? (columns.map Column.header) column).isSome := by
    unfold find?
    rw [List.findIdx?_map, List.findIdx?_isSome, List.any_eq_true]
    exact ⟨column, h, isHeadedBy_header.mpr rfl⟩
  obtain ⟨i, hi⟩ := Option.isSome_iff_exists.mp hsome
  have hat := hi
  unfold find? at hat
  rw [List.findIdx?_map, List.findIdx?_eq_some_iff_getElem] at hat
  obtain ⟨hlt, hheaded, -⟩ := hat
  refine ⟨i, hi, ?_⟩
  rw [List.getElem?_eq_getElem hlt, isHeadedBy_header.mp hheaded]

/-- The layout finds a column's text in every row that is written in the order of the headers. -/
theorem ofHeaders_headers (h : ∀ column, column ∈ columns) :
    ∃ layout, ofHeaders (columns.map Column.header) = .ok layout ∧
      ∀ (texts : Column → String) (column : Column),
        layout.field? (columns.map texts) column = some (trim (texts column)) := by
  have hmissing : missing (columns.map Column.header) = [] := by
    unfold missing
    rw [List.filter_eq_nil_iff]
    intro column _
    obtain ⟨i, hi, -⟩ := find?_headers (h column)
    simp [hi]
  refine ⟨⟨fun column => (find? (columns.map Column.header) column).getD 0⟩, ?_, ?_⟩
  · unfold ofHeaders
    rw [hmissing]
  · intro texts column
    obtain ⟨i, hi, hat⟩ := find?_headers (h column)
    unfold field?
    simp only [hi, Option.getD_some, List.getElem?_map, hat, Option.map_some]

end Layout

namespace Sheet

/-- A row with a text for every column, none of them between blanks. Its price and its stock are
the numbers that their texts write. -/
structure Row where
  text : Column → String
  price : Decimal
  stock : Int
  trimmed : ∀ column, trim (text column) = text column
  writes_price : Decimal.read (text .price) = .ok price
  writes_stock : readInteger Width.i32 (text .stock) = .ok stock

def Row.record (row : Row) (rowNumber : Int) : ProductRecord where
  rowNumber := some rowNumber
  internalId := row.text .internalId
  name := row.text .name
  description := row.text .description
  brand := row.text .brand
  category := row.text .category
  price := row.price
  currency := row.text .currency
  stock := row.stock
  ean := row.text .ean
  color := row.text .color
  size := row.text .size
  availability := row.text .availability

def lines (columns : List Column) (header : Csv.Ending) (rows : List (Row × Csv.Ending)) :
    List Csv.Line :=
  ⟨columns.map Column.header, header⟩ ::
    rows.map fun (row, ending) => ⟨columns.map row.text, ending⟩

variable {columns : List Column}

theorem read_row {layout : Layout} {row : Row}
    (h : ∀ column, layout.field? (columns.map row.text) column = some (row.text column))
    (rowNumber : Int) :
    layout.read rowNumber (columns.map row.text) = .ok (row.record rowNumber) := by
  have hrequired (column : Column) :
      layout.required (columns.map row.text) column = .ok (row.text column) := by
    unfold Layout.required
    rw [h]
  have hprice : layout.priceOf (columns.map row.text) = .ok row.price := by
    unfold Layout.priceOf
    simp only [hrequired, bind, Except.bind, row.writes_price]
    rfl
  have hstock : layout.stockOf (columns.map row.text) = .ok row.stock := by
    unfold Layout.stockOf
    simp only [hrequired, bind, Except.bind, row.writes_stock]
    rfl
  unfold Layout.read Layout.recordOf
  simp only [hprice, hstock, hrequired, bind, Except.bind, pure, Except.pure]
  rfl

theorem ofRows_rows {layout : Layout} (rows : List (Row × Csv.Ending))
    (h : ∀ row ∈ rows, ∀ column,
      layout.field? (columns.map row.1.text) column = some (row.1.text column))
    (first : Int) :
    RowEvent.ofRows layout first (rows.map fun row => .ok (columns.map row.1.text)) =
      rows.mapIdx fun i row => .parsed (row.1.record (i + first)) := by
  induction rows generalizing first with
  | nil => rfl
  | cons row rows ih =>
    have hrest := ih (fun other hother => h other (List.mem_cons_of_mem row hother)) (first + 1)
    have hnext (i : Nat) : ((i + 1 : Nat) : Int) + first = i + (first + 1) := by omega
    have hfirst : ((0 : Nat) : Int) + first = first := by omega
    rw [List.map_cons, RowEvent.ofRows, read_row (h row List.mem_cons_self), hrest,
      List.mapIdx_cons]
    simp only [hnext, hfirst]

/-- A sheet is read as it was written, its rows numbered from one on. -/
theorem ofSource_written (h : columns.Perm Column.all) (marked : Bool) (header : Csv.Ending)
    (rows : List (Row × Csv.Ending)) :
    RowEvent.ofSource (Csv.read (Csv.written marked (lines columns header rows))) =
      rows.mapIdx fun i row => .parsed (row.1.record (i + 1)) := by
  have hmem (column : Column) : column ∈ columns := h.mem_iff.mpr column.mem_all
  have hcolumns : columns ≠ [] := List.ne_nil_of_mem (hmem .name)
  obtain ⟨layout, hlayout, hfield⟩ := Layout.ofHeaders_headers hmem
  have hne : ∀ line ∈ lines columns header rows, line.fields ≠ [] := by
    intro line hline
    rcases List.mem_cons.mp hline with rfl | hline
    · simpa using hcolumns
    · obtain ⟨row, -, rfl⟩ := List.mem_map.mp hline
      simpa using hcolumns
  have htrim : ∀ line ∈ lines columns header rows, ∀ text ∈ line.fields, trim text = text := by
    intro line hline text htext
    rcases List.mem_cons.mp hline with rfl | hline
    · obtain ⟨column, -, rfl⟩ := List.mem_map.mp htext
      exact Layout.trim_header column
    · obtain ⟨row, -, rfl⟩ := List.mem_map.mp hline
      obtain ⟨column, -, rfl⟩ := List.mem_map.mp htext
      exact row.1.trimmed column
  have hread := Csv.read_written marked hne htrim
  rw [List.map_map] at hread
  rw [lines, hread]
  unfold RowEvent.ofSource
  simp only [hlayout]
  refine ofRows_rows rows (fun row _ column => ?_) 1
  rw [hfield, row.1.trimmed]

section Lamp

/-- Commas, marks, line ends and letters beyond ASCII, and numbers that are not written plainly. -/
def lampText : Column → String
  | .internalId => "\"1\""
  | .name => "Lamp, \"tall\""
  | .description => "first\r\nsecond,\n\"\""
  | .price => "-1.50e3"
  | .stock => "+7"
  | .category => "Möbel 😀"
  | _ => ""

def lamp : Row where
  text := lampText
  price := ⟨-150, -1⟩
  stock := 7
  trimmed column := by cases column <;> rfl
  writes_price := by rfl
  writes_stock := by rfl

theorem ofSource_lamps : Column.all.reverse.Perm Column.all ∧
    RowEvent.ofSource (Csv.read (Csv.written true
        (lines Column.all.reverse ⟨.carriageReturn, [.both, .lineFeed]⟩
          [(lamp, ⟨.both, []⟩), (lamp, ⟨.lineFeed, [.both]⟩)]))) =
      [(lamp, (⟨.both, []⟩ : Csv.Ending)), (lamp, ⟨.lineFeed, [.both]⟩)].mapIdx
        fun i row => .parsed (row.1.record (i + 1)) :=
  ⟨by decide, ofSource_written (by decide) true _ _⟩

end Lamp

end Sheet

end CatalogIntake
