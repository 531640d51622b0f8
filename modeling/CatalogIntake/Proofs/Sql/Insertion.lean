import CatalogIntake.Proofs.Number.Digits
import CatalogIntake.Sql.Statement

/-!
What the server makes of an insertion: the columns and the placeholders are read off the text of
the statement, and every placeholder stands for the value with its number. An insertion of products
or of entries of the error log means each of them once, with every field in its own column.
-/

namespace CatalogIntake.Sql

open Number

def listed (text : List Char) : List (List Char) :=
  (text.splitOn ',').map (·.dropWhile (· == ' '))

def placeholder? : List Char → Option Nat
  | '$' :: c :: digits =>
    if (c :: digits).all Char.isDigit then some (Nat.ofDigitChars 10 (c :: digits) 0) else none
  | _ => none

/-- An insertion as its text tells it: what comes before the columns, the columns, and the numbers
of the placeholders in each row. -/
structure Insertion where
  opening : String
  columns : List String
  rows : List (List Nat)
  deriving DecidableEq, Repr

namespace Insertion

def upTo? (closing : String) (part : List Char) : Option (List (List Char)) :=
  if part.dropWhile (· != ')') = closing.toList then some (listed (part.takeWhile (· != ')')))
  else none

def readRow? (closing : String) (part : List Char) : Option (List Nat) :=
  (upTo? closing part).bind (·.mapM placeholder?)

def readRows? : List (List Char) → Option (List (List Nat))
  | [] => none
  | [part] => do return [← readRow? ")" part]
  | part :: rest => do return (← readRow? "), " part) :: (← readRows? rest)

def read? (text : String) : Option Insertion :=
  match text.toList.splitOn '(' with
  | opening :: columns :: rows => do
    return ⟨String.ofList opening, (← upTo? ") VALUES " columns).map String.ofList,
      ← readRows? rows⟩
  | _ => none

end Insertion

def bound? (params : List Param) : Nat → Option Param
  | 0 => none
  | n + 1 => params[n]?

/-- The rows that a statement inserts, each value under the name of its column. -/
def Statement.inserted? (s : Statement) : Option (List (List (String × Param))) := do
  let insertion ← Insertion.read? s.text
  insertion.rows.mapM fun row => return insertion.columns.zip (← row.mapM (bound? s.params))

section Lists

theorem splitOn_self {mark : Char} {text : List Char} (h : mark ∉ text) :
    text.splitOn mark = [text] := by
  rw [List.splitOn_eq_splitOnP]
  apply List.splitOnP_eq_singleton
  intro c hc
  rw [beq_eq_false_iff_ne]
  rintro rfl
  exact h hc

theorem splitOn_append {mark : Char} {front : List Char} (h : mark ∉ front) (rest : List Char) :
    (front ++ mark :: rest).splitOn mark = front :: rest.splitOn mark := by
  have hfront := splitOn_self h
  rw [List.splitOn_eq_splitOnP] at hfront ⊢
  rw [List.splitOnP_append_cons (p := (· == mark)) _ _ (beq_self_eq_true mark), hfront,
    ← List.splitOn_eq_splitOnP]
  rfl

structure IsPart (part : List Char) : Prop where
  comma : ',' ∉ part
  blank : part.dropWhile (· == ' ') = part

theorem listed_blank (text : List Char) : listed (' ' :: text) = listed text := by
  unfold listed
  rw [List.splitOn_eq_splitOnP, List.splitOn_eq_splitOnP, List.splitOnP_cons_eq_if_modifyHead]
  cases h : text.splitOnP (· == ',') <;> simp

theorem listed_append {part : List Char} (h : IsPart part) (rest : List Char) :
    listed (part ++ ',' :: rest) = part :: listed rest := by
  unfold listed
  rw [splitOn_append h.comma, List.map_cons, h.blank]

theorem listed_intercalate {parts : List (List Char)} (nonempty : parts ≠ [])
    (h : ∀ part ∈ parts, IsPart part) : listed ([',', ' '].intercalate parts) = parts := by
  induction parts with
  | nil => exact absurd rfl nonempty
  | cons part rest ih =>
    have hpart := h part List.mem_cons_self
    cases rest with
    | nil =>
      rw [List.intercalate_singleton]
      rw [listed, splitOn_self hpart.comma, List.map_singleton, hpart.blank]
    | cons next rest =>
      rw [List.intercalate_cons_cons]
      calc
        _ = listed (part ++ ',' :: ' ' :: [',', ' '].intercalate (next :: rest)) := by simp
        _ = part :: listed ([',', ' '].intercalate (next :: rest)) := by
          rw [listed_append hpart, listed_blank]
        _ = part :: next :: rest := by
          rw [ih (List.cons_ne_nil next rest) fun other hother =>
            h other (List.mem_cons_of_mem part hother)]

end Lists

section Placeholders

def bracketed (body : List Char) : List Char := '(' :: (body ++ [')'])

def numbered (n : Nat) : List Char := '$' :: Nat.toDigits 10 n

theorem placeholder?_numbered (n : Nat) : placeholder? (numbered n) = some n := by
  have digits := allDigits_toDigits n
  have value : Nat.ofDigitChars 10 (Nat.toDigits 10 n) 0 = n :=
    Nat.ofDigitChars_toDigits (by decide) (by decide)
  unfold numbered
  cases h : Nat.toDigits 10 n with
  | nil => exact absurd h Nat.toDigits_ne_nil
  | cons c rest =>
    rw [h] at digits value
    have all_ : (c :: rest).all Char.isDigit = true := List.all_eq_true.mpr digits
    simp only [placeholder?, all_, if_true, value]

theorem not_mem_numbered {c : Char} (digit : c.isDigit = false) (dollar : c ≠ '$') (n : Nat) :
    c ∉ numbered n := by
  intro hc
  rcases List.mem_cons.mp hc with same | hc
  · exact dollar same
  · exact (allDigits_toDigits n).ne hc digit rfl

theorem isPart_numbered (n : Nat) : IsPart (numbered n) :=
  ⟨not_mem_numbered rfl (by decide) n, rfl⟩

theorem not_mem_intercalate {c : Char} {parts : List (List Char)} (comma : c ≠ ',')
    (blank : c ≠ ' ') (h : ∀ part ∈ parts, c ∉ part) : c ∉ [',', ' '].intercalate parts := by
  induction parts with
  | nil => simp
  | cons part rest ih =>
    have hrest := ih fun other hother => h other (List.mem_cons_of_mem part hother)
    have hpart := h part List.mem_cons_self
    cases rest with
    | nil => simpa using hpart
    | cons next rest =>
      rw [List.intercalate_cons_cons]
      simp [hpart, hrest, comma, blank]

def rowBody (first width : Nat) : List Char :=
  [',', ' '].intercalate ((List.range' first width).map numbered)

theorem toList_placeholders (first width : Nat) :
    (Statement.placeholders first width).toList = bracketed (rowBody first width) := by
  have names : (List.range width).map (fun i => (s!"${first + i}").toList) =
      (List.range' first width).map numbered := by
    rw [List.range'_eq_map_range, List.map_map]
    apply List.map_congr_left
    intro i _
    simp [numbered]
    rfl
  rw [Statement.placeholders, bracketed, rowBody, ← names]
  simp [String.toList_intercalate, Function.comp_def]

theorem clear_rowBody {c : Char} (comma : c ≠ ',') (blank : c ≠ ' ') (digit : c.isDigit = false)
    (dollar : c ≠ '$') (first width : Nat) : c ∉ rowBody first width := by
  apply not_mem_intercalate comma blank
  intro part hpart
  obtain ⟨n, -, rfl⟩ := List.mem_map.mp hpart
  exact not_mem_numbered digit dollar n

theorem listed_rowBody {first width : Nat} (wide : 0 < width) :
    (listed (rowBody first width)).mapM placeholder? = some (List.range' first width) := by
  have nonempty : (List.range' first width).map numbered ≠ [] := by
    simp only [ne_eq, List.map_eq_nil_iff, List.range'_eq_nil_iff]
    omega
  rw [rowBody, listed_intercalate nonempty]
  · generalize List.range' first width = numbers
    induction numbers with
    | nil => rfl
    | cons n rest ih => simp [placeholder?_numbered, ih]
  · intro part hpart
    obtain ⟨n, -, rfl⟩ := List.mem_map.mp hpart
    exact isPart_numbered n

end Placeholders

section Rows

/-- Rows with what follows their closing brackets, before the next one opens. -/
def closed : List (List Char) → List (List Char)
  | [] => []
  | [body] => [body ++ ")".toList]
  | body :: rest => (body ++ "), ".toList) :: closed rest

theorem closed_cons_cons (body next : List Char) (rest : List (List Char)) :
    closed (body :: next :: rest) = (body ++ "), ".toList) :: closed (next :: rest) := rfl

theorem closed_ne_nil (body : List Char) (rest : List (List Char)) :
    closed (body :: rest) ≠ [] := by
  cases rest <;> simp [closed]

theorem intercalate_bracketed {bodies : List (List Char)} (nonempty : bodies ≠ []) :
    [',', ' '].intercalate (bodies.map bracketed) = '(' :: ['('].intercalate (closed bodies) := by
  induction bodies with
  | nil => exact absurd rfl nonempty
  | cons body rest ih =>
    cases rest with
    | nil => simp [closed, bracketed]
    | cons next rest =>
      have hrest := ih (List.cons_ne_nil next rest)
      rw [List.map_cons] at hrest
      obtain ⟨part, parts, hclosed⟩ := List.exists_cons_of_ne_nil (closed_ne_nil next rest)
      rw [List.map_cons, List.map_cons, List.intercalate_cons_cons, hrest, closed_cons_cons,
        hclosed, List.intercalate_cons_cons]
      simp [bracketed]

theorem not_mem_closed {bodies : List (List Char)} (h : ∀ body ∈ bodies, '(' ∉ body) :
    ∀ part ∈ closed bodies, '(' ∉ part := by
  induction bodies with
  | nil => simp [closed]
  | cons body rest ih =>
    obtain ⟨hbody, hrest⟩ := List.forall_mem_cons.mp h
    cases rest with
    | nil => simp [closed, hbody]
    | cons next rest =>
      rw [closed_cons_cons, List.forall_mem_cons]
      exact ⟨by simp [hbody], ih hrest⟩

namespace Insertion

theorem upTo?_append {body : List Char} (h : ')' ∉ body) {closing : String}
    (bracket : closing.toList.head? = some ')') :
    upTo? closing (body ++ closing.toList) = some (listed body) := by
  have front : ∀ c ∈ body, (c != ')') = true := by
    intro c hc
    rw [bne_iff_ne]
    rintro rfl
    exact h hc
  have back : ∀ c, closing.toList.head? = some c → (c != ')') = false := by
    intro c hc
    rw [bracket] at hc
    cases hc
    rfl
  obtain ⟨htake, hdrop⟩ := takeWhile_append body closing.toList front back
  rw [upTo?, htake, hdrop, if_pos rfl]

theorem readRow?_rowBody {width : Nat} (wide : 0 < width) (first : Nat) (closing : String)
    (bracket : closing.toList.head? = some ')') :
    readRow? closing (rowBody first width ++ closing.toList) =
      some (List.range' first width) := by
  have clear : ')' ∉ rowBody first width :=
    clear_rowBody (by decide) (by decide) rfl (by decide) first width
  rw [readRow?, upTo?_append clear bracket]
  exact listed_rowBody wide

theorem readRows?_closed {width : Nat} (wide : 0 < width) {firsts : List Nat}
    (nonempty : firsts ≠ []) :
    readRows? (closed (firsts.map (rowBody · width))) =
      some (firsts.map (List.range' · width)) := by
  induction firsts with
  | nil => exact absurd rfl nonempty
  | cons first rest ih =>
    cases rest with
    | nil =>
      simp only [List.map_cons, List.map_nil, closed, readRows?,
        readRow?_rowBody wide first ")" rfl]
      rfl
    | cons next rest =>
      have hrest := ih (List.cons_ne_nil next rest)
      simp only [List.map_cons] at hrest ⊢
      obtain ⟨part, parts, hclosed⟩ := List.exists_cons_of_ne_nil
        (closed_ne_nil (rowBody next width) (rest.map (rowBody · width)))
      rw [hclosed] at hrest
      rw [closed_cons_cons, hclosed, readRows?, hrest, readRow?_rowBody wide first "), " rfl]
      · rfl
      · exact List.cons_ne_nil part parts

theorem read?_eq {opening columns : String} {names : List String} {width : Nat}
    {firsts : List Nat} (clear : '(' ∉ opening.toList) (openless : '(' ∉ columns.toList)
    (closeless : ')' ∉ columns.toList) (hnames : (listed columns.toList).map String.ofList = names)
    (wide : 0 < width) (nonempty : firsts ≠ []) :
    read? (opening ++ "(" ++ columns ++ ") VALUES " ++
        ", ".intercalate (firsts.map (Statement.placeholders · width))) =
      some ⟨opening, names, firsts.map (List.range' · width)⟩ := by
  have bodies : firsts.map (rowBody · width) ≠ [] := by simpa using nonempty
  obtain ⟨first, rest, rfl⟩ := List.exists_cons_of_ne_nil nonempty
  have hrows : (", ".intercalate ((first :: rest).map (Statement.placeholders · width))).toList =
      '(' :: ['('].intercalate (closed ((first :: rest).map (rowBody · width))) := by
    rw [← intercalate_bracketed bodies, String.toList_intercalate, List.map_map, List.map_map]
    simp only [Function.comp_def, toList_placeholders]
    rfl
  have htext : (opening ++ "(" ++ columns ++ ") VALUES " ++
        ", ".intercalate ((first :: rest).map (Statement.placeholders · width))).toList =
      opening.toList ++ '(' :: ((columns.toList ++ ") VALUES ".toList) ++
        '(' :: ['('].intercalate (closed ((first :: rest).map (rowBody · width)))) := by
    simp only [String.toList_append, hrows]
    simp
  have opens : '(' ∉ columns.toList ++ ") VALUES ".toList := by simp [openless]
  have inside : ∀ part ∈ closed ((first :: rest).map (rowBody · width)), '(' ∉ part := by
    apply not_mem_closed
    intro body hbody
    obtain ⟨k, -, rfl⟩ := List.mem_map.mp hbody
    exact clear_rowBody (by decide) (by decide) rfl (by decide) k width
  rw [read?, htext, splitOn_append clear, splitOn_append opens,
    List.splitOn_intercalate '(' inside (closed_ne_nil _ _)]
  simp only
  rw [upTo?_append closeless rfl, readRows?_closed wide nonempty]
  simp [hnames]

end Insertion

end Rows

section Values

theorem mapM_bound (before values after : List Param) :
    (List.range' (before.length + 1) values.length).mapM (bound? (before ++ values ++ after)) =
      some values := by
  induction values generalizing before with
  | nil => rfl
  | cons value rest ih =>
    have hrest := ih (before ++ [value])
    have here : bound? (before ++ value :: rest ++ after) (before.length + 1) = some value := by
      simp [bound?]
    rw [List.length_append, List.length_singleton] at hrest
    rw [List.length_cons, List.range'_succ, List.mapM_cons, here]
    simp only [List.append_assoc, List.cons_append, List.nil_append] at hrest ⊢
    rw [hrest]
    rfl

variable {α : Type}

def rowNumbers (start count width : Nat) : List (List Nat) :=
  (List.range' start count).map fun i => List.range' (i * width + 1) width

theorem mapM_rows {values : α → List Param} {width : Nat}
    (full : ∀ item, (values item).length = width) (columns : List String) (items : List α)
    (before : List Param) (start : Nat) (aligned : before.length = start * width) :
    (rowNumbers start items.length width).mapM (fun row => do
        return columns.zip (← row.mapM (bound? (before ++ items.flatMap values)))) =
      some (items.map fun item => columns.zip (values item)) := by
  induction items generalizing before start with
  | nil => rfl
  | cons item rest ih =>
    have next : (before ++ values item).length = (start + 1) * width := by
      rw [List.length_append, aligned, full, Nat.succ_mul]
    have hrest := ih _ _ next
    have hrow := mapM_bound before (values item) (rest.flatMap values)
    rw [full, aligned] at hrow
    unfold rowNumbers at hrest ⊢
    rw [List.length_cons, List.range'_succ, List.map_cons, List.mapM_cons, List.flatMap_cons,
      ← List.append_assoc, hrow, hrest]
    rfl

end Values

def productRow (p : Product) : List (String × Param) :=
  [("internal_id", .text p.internalId), ("name", .text p.name),
   ("description", .text p.description), ("brand", .text p.brand),
   ("category", .text p.category), ("price", .decimal p.price), ("currency", .text p.currency),
   ("stock", .integer p.stock), ("ean", .text p.ean), ("color", .text p.color),
   ("size", .text p.size), ("availability", .text p.availability)]

def errorRow (e : ErrorCandidate) : List (String × Param) :=
  [("job_id", .identifier e.jobId), ("row_number", .ofInteger e.rowNumber),
   ("error_message", .text e.message), ("row_data", .ofText e.rowData)]

/-- The statement inserts these items with their columns, each by one row of placeholders; they are
numbered from 1, row by row, and bound in this order. -/
structure Inserts {α : Type} (opening : String) (columns : α → List (String × Param))
    (items : List α) (statement : Statement) : Prop where
  text : ∃ names, Insertion.read? statement.text =
    some ⟨opening, names, rowNumbers 0 items.length names.length⟩
  params : statement.params = items.flatMap fun item => (columns item).map (·.2)
  rows : statement.inserted? = some (items.map columns)

theorem inserts_of_read {α : Type} {opening : String} {columns : α → List (String × Param)}
    {items : List α} {statement : Statement} (names : List String)
    (hnames : ∀ item, (columns item).map (·.1) = names)
    (text : Insertion.read? statement.text =
      some ⟨opening, names, rowNumbers 0 items.length names.length⟩)
    (params : statement.params = items.flatMap fun item => (columns item).map (·.2)) :
    Inserts opening columns items statement where
  text := ⟨names, text⟩
  params := params
  rows := by
    have full : ∀ item, ((columns item).map (·.2)).length = names.length := by
      intro item
      rw [← hnames item, List.length_map, List.length_map]
    have zipped : ∀ item, names.zip ((columns item).map (·.2)) = columns item := by
      intro item
      rw [← hnames item, List.zip_map']
      simp
    have hrows := mapM_rows full names items [] 0 (Nat.zero_mul _).symm
    rw [Statement.inserted?, text, params]
    simpa [zipped] using hrows

theorem read?_values (opening columns : String) {names : List String} {count : Nat}
    (clear : '(' ∉ opening.toList) (openless : '(' ∉ columns.toList)
    (closeless : ')' ∉ columns.toList) (hnames : (listed columns.toList).map String.ofList = names)
    (wide : 0 < names.length) (nonempty : 0 < count) :
    Insertion.read? (opening ++ "(" ++ columns ++ ") VALUES " ++
        Statement.valueRows names.length count) =
      some ⟨opening, names, rowNumbers 0 count names.length⟩ := by
  have firsts : (List.range count).map (· * names.length + 1) ≠ [] := by
    simp only [ne_eq, List.map_eq_nil_iff, List.range_eq_nil]
    omega
  have hread := Insertion.read?_eq clear openless closeless hnames wide firsts
  rw [List.map_map, List.map_map] at hread
  rw [Statement.valueRows, rowNumbers, ← List.range_eq_range']
  exact hread

theorem inserts_products {products : List Product} (nonempty : products ≠ []) :
    Inserts "INSERT INTO products " productRow products (.insertProducts products) := by
  have opening : "INSERT INTO products " ++ "(" = "INSERT INTO products (" := by decide
  have hread := read?_values "INSERT INTO products " Statement.productColumns (by decide)
    (by decide) (by decide) rfl (by decide) (List.length_pos_iff.mpr nonempty)
  rw [opening] at hread
  exact inserts_of_read _ (fun _ => rfl) hread rfl

theorem inserts_errors {candidates : List ErrorCandidate} (nonempty : candidates ≠ []) :
    Inserts "INSERT INTO import_errors " errorRow candidates (.insertErrors candidates) := by
  have opening : "INSERT INTO import_errors " ++ "(" ++
      "job_id, row_number, error_message, row_data" ++ ") VALUES " =
        "INSERT INTO import_errors (job_id, row_number, error_message, row_data) VALUES " := by
    decide
  have hread := read?_values "INSERT INTO import_errors "
    "job_id, row_number, error_message, row_data" (by decide) (by decide) (by decide) rfl
    (by decide) (List.length_pos_iff.mpr nonempty)
  rw [opening] at hread
  exact inserts_of_read _ (fun _ => rfl) hread rfl

end CatalogIntake.Sql
