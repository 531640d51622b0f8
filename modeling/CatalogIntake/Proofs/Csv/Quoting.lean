import CatalogIntake.Csv.Scan
import CatalogIntake.Proofs.Text.Utf8

namespace CatalogIntake.Csv

open Text

section Writing

inductive LineEnd
  | lineFeed
  | carriageReturn
  | both
  deriving DecidableEq, Repr

def LineEnd.chars : LineEnd → List Char
  | .lineFeed => ['\n']
  | .carriageReturn => ['\r']
  | .both => ['\r', '\n']

def doubled (c : Char) : List Char := if c = '"' then ['"', '"'] else [c]

def quotedField (text : String) : List Char := '"' :: text.toList.flatMap doubled ++ ['"']

def quotedFields : List String → List Char
  | [] => []
  | [text] => quotedField text
  | text :: next :: rest => quotedField text ++ ',' :: quotedFields (next :: rest)

structure Ending where
  lineEnd : LineEnd
  blankLines : List LineEnd
  deriving DecidableEq, Repr

def Ending.chars (ending : Ending) : List Char :=
  ending.lineEnd.chars ++ ending.blankLines.flatMap LineEnd.chars

structure Line where
  fields : List String
  ending : Ending
  deriving DecidableEq, Repr

def Line.chars (line : Line) : List Char := quotedFields line.fields ++ line.ending.chars

def written (marked : Bool) (lines : List Line) : List UInt8 :=
  (if marked then byteOrderMark else []) ++
    Utf8.encode (String.ofList (lines.flatMap Line.chars))

end Writing

namespace Scanner

/-- The scanner has these octets of a field, these fields of a record and the records before. -/
structure At (s : Scanner) (mode : Mode) (octets : List UInt8) (fields : List (List UInt8))
    (done : List (List (List UInt8))) : Prop where
  mode : s.mode = mode
  octets : s.octets.reverse = octets
  fields : s.fields.reverse = fields
  done : s.records.reverse.map RawRecord.fields = done

variable {s : Scanner} {octets : List UInt8} {fields : List (List UInt8)}
  {done : List (List (List UInt8))} {b : UInt8}

theorem At.open_ {mode : Mode} (h : s.At mode octets fields done)
    (hmode : mode = .betweenRecords ∨ mode = .fieldStart) :
    (s.step quoteMark).At .quoted octets fields done := by
  obtain ⟨rfl, hoctets, hfields, hdone⟩ := h
  unfold step advance
  rcases hmode with hmode | hmode
  · simp only [hmode]
    exact ⟨rfl, hoctets, hfields, hdone⟩
  · simp only [hmode]
    exact ⟨rfl, hoctets, hfields, hdone⟩

theorem At.put (h : s.At .quoted octets fields done) (hb : b ≠ quoteMark) :
    (s.step b).At .quoted (octets ++ [b]) fields done := by
  obtain ⟨hmode, rfl, hfields, hdone⟩ := h
  unfold step advance
  simp only [hmode, beq_false_of_ne hb, Bool.false_eq_true, if_false]
  exact ⟨rfl, List.reverse_cons, hfields, hdone⟩

theorem At.mark (h : s.At .quoted octets fields done) :
    (s.step quoteMark).At .quoteInQuoted octets fields done := by
  obtain ⟨hmode, hoctets, hfields, hdone⟩ := h
  unfold step advance
  simp only [hmode]
  exact ⟨rfl, hoctets, hfields, hdone⟩

theorem At.putMark (h : s.At .quoteInQuoted octets fields done) :
    (s.step quoteMark).At .quoted (octets ++ [quoteMark]) fields done := by
  obtain ⟨hmode, rfl, hfields, hdone⟩ := h
  unfold step advance
  simp only [hmode]
  exact ⟨rfl, List.reverse_cons, hfields, hdone⟩

theorem At.comma (h : s.At .quoteInQuoted octets fields done) :
    (s.step comma).At .fieldStart [] (fields ++ [octets]) done := by
  obtain ⟨hmode, rfl, rfl, hdone⟩ := h
  unfold step advance
  simp only [hmode]
  exact ⟨rfl, rfl, List.reverse_cons, hdone⟩

theorem At.endRecord (h : s.At .quoteInQuoted octets fields done) (hb : endsRecord b) :
    (s.step b).At .betweenRecords [] [] (done ++ [fields ++ [octets]]) := by
  obtain ⟨hmode, rfl, rfl, rfl⟩ := h
  have hends : b = lineFeed ∨ b = carriageReturn := by simpa [endsRecord] using hb
  have hmark : (b == quoteMark) = false := by rcases hends with rfl | rfl <;> rfl
  have hcomma : (b == Csv.comma) = false := by rcases hends with rfl | rfl <;> rfl
  unfold step advance
  simp only [hmode, hmark, Bool.false_eq_true, if_false, plain, hcomma, hb, if_true]
  refine ⟨rfl, rfl, rfl, ?_⟩
  simp [Scanner.endRecord]

theorem At.skip (h : s.At .betweenRecords octets fields done) (hb : endsRecord b) :
    (s.step b).At .betweenRecords octets fields done := by
  obtain ⟨hmode, hoctets, hfields, hdone⟩ := h
  unfold step advance
  simp only [hmode, hb, if_true]
  exact ⟨rfl, hoctets, hfields, hdone⟩

theorem At.puts (h : s.At .quoted octets fields done) {more : List UInt8}
    (hmore : ∀ b ∈ more, b ≠ quoteMark) :
    (more.foldl step s).At .quoted (octets ++ more) fields done := by
  induction more generalizing s octets with
  | nil => rwa [List.append_nil]
  | cons b more ih =>
    have hput := h.put (hmore b List.mem_cons_self)
    have hrest := ih hput fun b' hb' => hmore b' (List.mem_cons_of_mem b hb')
    rwa [List.append_assoc, List.singleton_append] at hrest

theorem ne_quoteMark {c : Char} (hc : c ≠ '"') :
    ∀ b ∈ String.utf8EncodeChar c, b ≠ quoteMark := by
  rintro b hb rfl
  have hcode := Utf8.octet_of_lt hb (by decide)
  exact hc (Char.toNat_inj.mp hcode)

theorem At.char (h : s.At .quoted octets fields done) (c : Char) :
    ((Utf8.octets (doubled c)).foldl step s).At .quoted (octets ++ Utf8.octets [c]) fields
      done := by
  unfold doubled
  split
  · rename_i hc
    rw [hc]
    exact h.mark.putMark
  · rename_i hc
    apply h.puts
    simpa using ne_quoteMark hc

theorem At.chars (h : s.At .quoted octets fields done) (cs : List Char) :
    ((Utf8.octets (cs.flatMap doubled)).foldl step s).At .quoted
      (octets ++ Utf8.octets cs) fields done := by
  induction cs generalizing s octets with
  | nil => rwa [Utf8.octets_nil, List.append_nil]
  | cons c cs ih =>
    have hrest := ih (h.char c)
    rw [List.flatMap_cons, Utf8.octets_append, List.foldl_append]
    rwa [List.append_assoc, ← Utf8.octets_append] at hrest

theorem At.field {mode : Mode} (h : s.At mode [] fields done)
    (hmode : mode = .betweenRecords ∨ mode = .fieldStart) (text : String) :
    ((Utf8.octets (quotedField text)).foldl step s).At .quoteInQuoted
      (Utf8.encode text) fields done := by
  have hinside := (h.open_ hmode).chars text.toList
  unfold quotedField
  rw [List.cons_append, Utf8.octets_cons, Utf8.octets_append, List.foldl_append,
    List.foldl_append, Utf8.encode_eq]
  exact hinside.mark

/-- What has been read of a record, once its last field is closed. -/
theorem At.allFields {mode : Mode} (h : s.At mode [] fields done)
    (hmode : mode = .betweenRecords ∨ mode = .fieldStart) {texts : List String}
    (hne : texts ≠ []) :
    ∃ before last, before ++ [last] = fields ++ texts.map Utf8.encode ∧
      ((Utf8.octets (quotedFields texts)).foldl step s).At .quoteInQuoted last before done := by
  -- a closing mark could still be doubled: the last field is open until the next octet is seen
  induction texts generalizing s fields mode with
  | nil => exact absurd rfl hne
  | cons text texts ih =>
    cases texts with
    | nil => exact ⟨fields, Utf8.encode text, rfl, h.field hmode text⟩
    | cons next rest =>
      have hcomma := (h.field hmode text).comma
      obtain ⟨before, last, heq, hat⟩ := ih hcomma (.inr rfl) (List.cons_ne_nil next rest)
      refine ⟨before, last, ?_, ?_⟩
      · rw [heq, List.append_assoc, List.singleton_append]
        rfl
      · rw [quotedFields, Utf8.octets_append, List.foldl_append]
        exact hat

theorem At.skipLine (h : s.At .betweenRecords octets fields done) (lineEnd : LineEnd) :
    ((Utf8.octets lineEnd.chars).foldl step s).At .betweenRecords octets fields done := by
  cases lineEnd with
  | lineFeed => exact h.skip rfl
  | carriageReturn => exact h.skip rfl
  | both => exact (h.skip (b := carriageReturn) rfl).skip rfl

theorem At.skipLines (h : s.At .betweenRecords octets fields done) (blankLines : List LineEnd) :
    ((Utf8.octets (blankLines.flatMap LineEnd.chars)).foldl step s).At
      .betweenRecords octets fields done := by
  induction blankLines generalizing s with
  | nil => exact h
  | cons lineEnd rest ih =>
    rw [List.flatMap_cons, Utf8.octets_append, List.foldl_append]
    exact ih (h.skipLine lineEnd)

/-- The line feed after a carriage return is skipped like a blank line. -/
theorem At.endLine (h : s.At .quoteInQuoted octets fields done) (lineEnd : LineEnd) :
    ((Utf8.octets lineEnd.chars).foldl step s).At .betweenRecords [] []
      (done ++ [fields ++ [octets]]) := by
  cases lineEnd with
  | lineFeed => exact h.endRecord rfl
  | carriageReturn => exact h.endRecord rfl
  | both => exact (h.endRecord (b := carriageReturn) rfl).skip rfl

theorem At.line (h : s.At .betweenRecords [] [] done) {line : Line} (hne : line.fields ≠ []) :
    ((Utf8.octets line.chars).foldl step s).At .betweenRecords [] []
      (done ++ [line.fields.map Utf8.encode]) := by
  obtain ⟨before, last, heq, hat⟩ := h.allFields (.inl rfl) hne
  have hended := hat.endLine line.ending.lineEnd
  rw [heq, List.nil_append] at hended
  unfold Line.chars Ending.chars
  rw [Utf8.octets_append, Utf8.octets_append, List.foldl_append, List.foldl_append]
  exact hended.skipLines line.ending.blankLines

theorem At.lines (h : s.At .betweenRecords [] [] done) {lines : List Line}
    (hne : ∀ line ∈ lines, line.fields ≠ []) :
    ((Utf8.octets (lines.flatMap Line.chars)).foldl step s).At .betweenRecords [] []
      (done ++ lines.map fun line => line.fields.map Utf8.encode) := by
  induction lines generalizing s done with
  | nil => rwa [List.map_nil, List.append_nil]
  | cons line lines ih =>
    have hrest := ih (h.line (hne line List.mem_cons_self))
      fun other hother => hne other (List.mem_cons_of_mem line hother)
    rw [List.flatMap_cons, Utf8.octets_append, List.foldl_append]
    rwa [List.append_assoc, List.singleton_append] at hrest

theorem At.finish (h : s.At .betweenRecords octets fields done) :
    s.finish.map RawRecord.fields = done := by
  obtain ⟨hmode, -, -, hdone⟩ := h
  unfold Scanner.finish
  simp only [hmode]
  exact hdone

end Scanner

theorem quotedFields_cons {texts : List String} (hne : texts ≠ []) :
    ∃ cs, quotedFields texts = '"' :: cs := by
  obtain ⟨text, rest, rfl⟩ := List.exists_cons_of_ne_nil hne
  cases rest with
  | nil => exact ⟨_, rfl⟩
  | cons next rest => exact ⟨_, rfl⟩

/-- Without a mark of its own the file begins with a quotation mark, if it begins at all. -/
theorem not_marked {lines : List Line} (hne : ∀ line ∈ lines, line.fields ≠ []) :
    byteOrderMark.isPrefixOf (Utf8.octets (lines.flatMap Line.chars)) = false := by
  cases lines with
  | nil => rfl
  | cons line lines =>
    obtain ⟨cs, heq⟩ := quotedFields_cons (hne line List.mem_cons_self)
    rw [List.flatMap_cons, Line.chars, heq]
    rfl

theorem scan_written (marked : Bool) {lines : List Line}
    (hne : ∀ line ∈ lines, line.fields ≠ []) :
    (scan (written marked lines)).map RawRecord.fields =
      lines.map fun line => line.fields.map Utf8.encode := by
  have hstart (place : Place) :
      Scanner.At ⟨.betweenRecords, place, ⟨1, 0⟩, [], [], []⟩ .betweenRecords [] [] [] :=
    ⟨rfl, rfl, rfl, rfl⟩
  unfold scan written
  rw [Utf8.encode_ofList]
  cases marked with
  | true => exact ((hstart ⟨1, 3⟩).lines hne).finish
  | false =>
    simp only [Bool.false_eq_true, if_false, List.nil_append, not_marked hne]
    exact ((hstart ⟨1, 0⟩).lines hne).finish

end CatalogIntake.Csv
