import CatalogIntake.Json.Reader
import CatalogIntake.Json.Text
import CatalogIntake.Proofs.JobId
import CatalogIntake.Proofs.Number.Decimal

namespace CatalogIntake.Json

open Number Text

section Strings

theorem hexUnit?_low {n : Nat} (h : n < 32) :
    hexUnit? '0' '0' (hexDigit (n / 16)) (hexDigit (n % 16)) = some n := by
  unfold hexUnit? hexDigit
  rw [JobId.hexValue?_digitChar (by omega), JobId.hexValue?_digitChar (by omega)]
  change some (((0 * 16 + 0) * 16 + n / 16) * 16 + n % 16) = some n
  congr 1
  omega

variable {cs text rest : List Char} (h : readString cs = some (text, rest))
include h

theorem readString_plain {c : Char} (hmark : c ≠ '"') (hescape : c ≠ '\\')
    (hcontrol : ¬ c.toNat < 32) : readString (c :: cs) = some (c :: text, rest) := by
  rw [readString, if_neg hcontrol, h]
  · rfl
  · exact hmark
  · exact fun _ _ _ _ _ heq _ => hescape heq
  · exact fun _ _ heq _ => hescape heq

theorem readString_letter {letter c : Char} (hc : escaped? letter = some c)
    (hletter : letter ≠ 'u') : readString ('\\' :: letter :: cs) = some (c :: text, rest) := by
  rw [readString, hc, h]
  · rfl
  · exact fun _ _ _ _ _ heq _ => hletter heq

theorem readString_unit {c : Char} (hc : c.toNat < 32) :
    readString ('\\' :: 'u' :: '0' :: '0' :: hexDigit (c.toNat / 16) :: hexDigit (c.toNat % 16) ::
      cs) = some (c :: text, rest) := by
  rw [readString, hexUnit?_low hc, h]
  have hlow : (decide (0xd800 ≤ c.toNat) && decide (c.toNat < 0xdc00)) = false := by
    rw [decide_eq_false (by omega), Bool.false_and]
  have hhigh : (decide (0xdc00 ≤ c.toNat) && decide (c.toNat < 0xe000)) = false := by
    rw [decide_eq_false (by omega), Bool.false_and]
  simp only [bind, Option.bind_some, hlow, hhigh, Bool.false_eq_true, if_false, pure,
    Char.ofNat_toNat]

theorem readString_escapeChar (c : Char) :
    readString (escapeChar c ++ cs) = some (c :: text, rest) := by
  have hnat {n : Nat} (heq : c.toNat = n) : Char.ofNat n = c := by
    rw [← heq, Char.ofNat_toNat]
  unfold escapeChar
  split
  · rename_i heq
    exact readString_letter h (by rw [heq]; rfl) (by decide)
  split
  · rename_i heq
    exact readString_letter h (by rw [heq]; rfl) (by decide)
  split
  · rename_i heq
    exact readString_letter h (by rw [← hnat heq]; rfl) (by decide)
  split
  · rename_i heq
    exact readString_letter h (by rw [← hnat heq]; rfl) (by decide)
  split
  · rename_i heq
    exact readString_letter h (by rw [← hnat heq]; rfl) (by decide)
  split
  · rename_i heq
    exact readString_letter h (by rw [← hnat heq]; rfl) (by decide)
  split
  · rename_i heq
    exact readString_letter h (by rw [← hnat heq]; rfl) (by decide)
  split
  · exact readString_unit h ‹_›
  · exact readString_plain h ‹_› ‹_› ‹_›

omit h in
theorem readString_quoted (s : List Char) (rest : List Char) :
    readString (s.flatMap escapeChar ++ '"' :: rest) = some (s, rest) := by
  induction s with
  | nil => exact readString.eq_2 rest
  | cons c s ih =>
    rw [List.flatMap_cons, List.append_assoc]
    exact readString_escapeChar ih c

end Strings

section Numbers

def Ended (rest : List Char) : Prop :=
  ∀ c, rest.head? = some c → c = ',' ∨ c = ']' ∨ c = '}'

theorem ended_nil : Ended [] := fun _ h => nomatch h

theorem Ended.not_digit {rest : List Char} (h : Ended rest) {c : Char}
    (hc : rest.head? = some c) : isDigit c = false := by
  rcases h c hc with rfl | rfl | rfl <;> rfl

theorem Ended.readFraction {rest : List Char} (h : Ended rest) :
    readFraction rest = some ([], rest) := by
  unfold Json.readFraction
  split
  · rcases h '.' rfl with heq | heq | heq <;> cases heq
  · rfl

theorem Ended.not_marked {rest : List Char} (h : Ended rest) :
    ¬ (rest.head? = some 'e' ∨ rest.head? = some 'E') := by
  rintro (hc | hc) <;> rcases h _ hc with heq | heq | heq <;> cases heq

variable {negative : Bool} {ds rest : List Char} {value : Json}

/-- A sign is split off, and the digits after it up to the end of the number are kept as one. -/
theorem readNumber_of_sign {text : List Char}
    (hsign : (match text with
      | '-' :: rest => (true, rest)
      | _ => (false, text)) = (negative, ds ++ rest))
    (hds : AllDigits ds) (hne : ds ≠ []) (hlead : ds.head? = some '0' → ds.length = 1)
    (hvalue : integer? negative ds = some value) (hrest : Ended rest) :
    readNumber text = some (value, rest) := by
  obtain ⟨htake, hdrop⟩ := takeWhile_append (p := isDigit) ds rest hds
    (fun c hc => hrest.not_digit hc)
  have hwhole : (ds.isEmpty || decide (ds.head? = some '0') && decide (ds.length > 1)) = false := by
    rw [List.isEmpty_eq_false_iff.mpr hne, Bool.false_or, Bool.and_eq_false_imp]
    intro hzero
    rw [hlead (of_decide_eq_true hzero)]
    rfl
  have hmarked : (decide (rest.head? = some 'e') || decide (rest.head? = some 'E')) = false := by
    have h := hrest.not_marked
    simp only [not_or] at h
    simp [h.1, h.2]
  unfold readNumber
  split
  rename_i heq
  cases heq.symm.trans hsign
  simp only [htake, hdrop, hwhole, hrest.readFraction, bind, Option.bind_some, hmarked,
    Bool.false_eq_true, if_false, List.isEmpty_nil, Bool.not_true, Bool.or_false, hvalue, pure]

theorem readNumber_digits (hds : AllDigits ds) (hne : ds ≠ [])
    (hlead : ds.head? = some '0' → ds.length = 1) (hvalue : integer? false ds = some value)
    (hrest : Ended rest) : readNumber (ds ++ rest) = some (value, rest) := by
  refine readNumber_of_sign ?_ hds hne hlead hvalue hrest
  split
  · rename_i heq
    obtain ⟨d, ds, rfl⟩ := List.exists_cons_of_ne_nil hne
    cases heq
    exact absurd (allDigits_cons.mp hds).1 (by decide)
  · rfl

theorem readNumber_minus (hds : AllDigits ds) (hne : ds ≠ [])
    (hlead : ds.head? = some '0' → ds.length = 1) (hvalue : integer? true ds = some value)
    (hrest : Ended rest) : readNumber ('-' :: ds ++ rest) = some (value, rest) :=
  readNumber_of_sign rfl hds hne hlead hvalue hrest

theorem integer?_toDigits {n : Nat} (hfit : Width.i64.contains n ∨ Width.u64.contains n) :
    integer? false (Nat.toDigits 10 n) = some (.integer n) := by
  have hvalue : digitsValue (Nat.toDigits 10 n) = n :=
    (digitsValue_eq (allDigits_toDigits n) 0).trans Nat.ofDigitChars_ten_toDigits
  unfold integer?
  rw [hvalue]
  simp [hfit]

theorem integer?_toDigits_neg {n : Nat} (hpos : 0 < n)
    (hfit : Width.i64.contains (-n) ∨ Width.u64.contains (-n)) :
    integer? true (Nat.toDigits 10 n) = some (.integer (-n)) := by
  have hvalue : digitsValue (Nat.toDigits 10 n) = n :=
    (digitsValue_eq (allDigits_toDigits n) 0).trans Nat.ofDigitChars_ten_toDigits
  unfold integer?
  rw [hvalue]
  simp [hfit, Nat.pos_iff_ne_zero.mp hpos]

theorem length_toDigits_of_head?_zero {n : Nat} (h : (Nat.toDigits 10 n).head? = some '0') :
    (Nat.toDigits 10 n).length = 1 := by
  rcases Nat.eq_zero_or_pos n with rfl | hpos
  · rfl
  · exact absurd h (head?_toDigits_ne_zero hpos)

theorem readNumber_toString {n : Int} (hfit : Width.i64.contains n ∨ Width.u64.contains n)
    (hrest : Ended rest) : readNumber ((toString n).toList ++ rest) = some (.integer n, rest) := by
  cases n with
  | ofNat n =>
    rw [Int.ofNat_eq_natCast] at hfit ⊢
    rw [Decimal.toList_toString_ofNat]
    exact readNumber_digits (allDigits_toDigits n) Nat.toDigits_ne_nil
      length_toDigits_of_head?_zero (integer?_toDigits hfit) hrest
  | negSucc n =>
    rw [Decimal.toList_toString_negSucc]
    exact readNumber_minus (allDigits_toDigits _) Nat.toDigits_ne_nil
      length_toDigits_of_head?_zero (integer?_toDigits_neg n.succ_pos hfit) hrest

end Numbers

section Values

mutual

/-- A value without binary floating-point numbers, whose integers fit 64 bits. -/
def Exact : Json → Prop
  | .null => True
  | .bool _ => True
  | .integer n => Width.i64.contains n ∨ Width.u64.contains n
  | .double _ => False
  | .string _ => True
  | .array items => ExactItems items
  | .object members => ExactMembers members

def ExactItems : List Json → Prop
  | [] => True
  | item :: rest => item.Exact ∧ ExactItems rest

def ExactMembers : Members → Prop
  | [] => True
  | (_, value) :: rest => value.Exact ∧ ExactMembers rest

end

theorem skipSpace_cons {c : Char} (h : isSpace c = false) (cs : List Char) :
    skipSpace (c :: cs) = c :: cs := by
  unfold skipSpace
  rw [List.dropWhile_cons_of_neg (by simp [h])]

theorem isSpace_of_isDigit {c : Char} (h : c.isDigit) : isSpace c = false := by
  unfold isSpace
  have hne (d : Char) (hd : d.isDigit = false) : (c == d) = false := by
    rw [beq_eq_false_iff_ne]
    rintro rfl
    rw [h] at hd
    cases hd
  rw [hne ' ' rfl, hne '\n' rfl, hne '\t' rfl, hne '\r' rfl]
  rfl

theorem toList_toString_int (n : Int) : ∃ c cs, (toString n).toList = c :: cs ∧
    (c = '-' ∨ c.isDigit) := by
  have hdigit (m : Nat) : ∃ c cs, Nat.toDigits 10 m = c :: cs ∧ c.isDigit := by
    obtain ⟨c, cs, heq⟩ := List.exists_cons_of_ne_nil (Nat.toDigits_ne_nil (n := m) (b := 10))
    have hdigits := allDigits_toDigits m
    rw [heq] at hdigits
    exact ⟨c, cs, heq, (allDigits_cons.mp hdigits).1⟩
  cases n with
  | ofNat n =>
    obtain ⟨c, cs, heq, hc⟩ := hdigit n
    exact ⟨c, cs, (Decimal.toList_toString_ofNat n).trans heq, .inr hc⟩
  | negSucc n => exact ⟨'-', _, Decimal.toList_toString_negSucc n, .inl rfl⟩

/-- A value begins neither with a blank nor with what would end an empty array. -/
theorem compact_cons {v : Json} (h : v.Exact) :
    ∃ c cs, v.compact = c :: cs ∧ isSpace c = false ∧ c ≠ ']' := by
  cases v with
  | null => exact ⟨_, _, rfl, rfl, by decide⟩
  | bool b => cases b <;> exact ⟨_, _, rfl, rfl, by decide⟩
  | integer n =>
    obtain ⟨c, cs, heq, rfl | hc⟩ := toList_toString_int n
    · exact ⟨_, _, heq, rfl, by decide⟩
    · refine ⟨_, _, heq, isSpace_of_isDigit hc, ?_⟩
      rintro rfl
      cases hc
  | double x => exact h.elim
  | string s => exact ⟨_, _, rfl, rfl, by decide⟩
  | array items => exact ⟨_, _, rfl, rfl, by decide⟩
  | object members => exact ⟨_, _, rfl, rfl, by decide⟩

theorem readValue_integer {n : Int} (hfit : Width.i64.contains n ∨ Width.u64.contains n)
    {rest : List Char} (hrest : Ended rest) (fuel : Nat) :
    readValue (fuel + 1) ((toString n).toList ++ rest) = some (.integer n, rest) := by
  have hnumber := readNumber_toString hfit hrest
  obtain ⟨c, cs, heq, hc⟩ := toList_toString_int n
  rw [heq, List.cons_append] at hnumber ⊢
  have hspace : isSpace c = false := by
    rcases hc with rfl | hc
    · rfl
    · exact isSpace_of_isDigit hc
  have hne (d : Char) (hminus : d ≠ '-') (hd : d.isDigit = false) : c ≠ d := by
    rintro rfl
    rcases hc with rfl | hc
    · exact hminus rfl
    · rw [hc] at hd
      cases hd
  rw [readValue, skipSpace_cons hspace]
  split
  case h_7 => exact hnumber
  all_goals
    rename_i heq
    exact absurd (List.cons.inj heq).1 (hne _ (by decide) (by decide))

theorem ended_comma (rest : List Char) : Ended (',' :: rest) := by
  rintro c ⟨⟩
  exact .inl rfl

theorem ended_bracket (rest : List Char) : Ended (']' :: rest) := by
  rintro c ⟨⟩
  exact .inr (.inl rfl)

theorem ended_brace (rest : List Char) : Ended ('}' :: rest) := by
  rintro c ⟨⟩
  exact .inr (.inr rfl)

theorem compactItems_cons {item : Json} (h : item.Exact) (items : List Json) :
    ∃ c cs, compactItems (item :: items) = c :: cs ∧ isSpace c = false ∧ c ≠ ']' := by
  obtain ⟨c, cs, heq, hspace, hc⟩ := compact_cons h
  cases items with
  | nil => exact ⟨c, cs, heq, hspace, hc⟩
  | cons next rest =>
    exact ⟨c, cs ++ ',' :: compactItems (next :: rest), by rw [compactItems, heq]; rfl, hspace, hc⟩

theorem compactMembers_cons (member : String × Json) (members : Members) :
    ∃ cs, compactMembers (member :: members) = '"' :: cs := by
  cases members with
  | nil => exact ⟨_, rfl⟩
  | cons next rest => exact ⟨_, rfl⟩

theorem readValue_array {item : Json} (h : item.Exact) (items : List Json) (rest : List Char)
    (fuel : Nat) : readValue (fuel + 1) ((Json.array (item :: items)).compact ++ rest) =
      (readItems fuel (compactItems (item :: items) ++ ']' :: rest)).map fun read =>
        (.array read.1, read.2) := by
  obtain ⟨c, cs, heq, hspace, hc⟩ := compactItems_cons h items
  rw [readValue, compact, heq]
  simp only [List.cons_append, List.append_assoc,
    skipSpace_cons (show isSpace '[' = false from rfl), skipSpace_cons hspace]
  split
  · rename_i hbracket
    exact absurd (List.cons.inj hbracket).1 hc
  · rfl

theorem readValue_object (member : String × Json) (members : Members) (rest : List Char)
    (fuel : Nat) : readValue (fuel + 1) ((Json.object (member :: members)).compact ++ rest) =
      (readMembers fuel (compactMembers (member :: members) ++ '}' :: rest)).map fun read =>
        (.object read.1, read.2) := by
  obtain ⟨cs, heq⟩ := compactMembers_cons member members
  rw [readValue, compact, heq]
  simp only [List.cons_append, List.append_assoc,
    skipSpace_cons (show isSpace '{' = false from rfl),
    skipSpace_cons (show isSpace '"' = false from rfl)]
  rfl

theorem readMembers_last {name : String} {value : Json} {text rest : List Char} {fuel : Nat}
    (h : readValue fuel text = some (value, '}' :: rest)) :
    readMembers (fuel + 1) (quoted name ++ ':' :: text) = some ([(name, value)], rest) := by
  rw [readMembers, quoted]
  simp only [List.cons_append, List.append_assoc,
    skipSpace_cons (show isSpace '"' = false from rfl),
    List.nil_append, readString_quoted, bind, Option.bind_some,
    skipSpace_cons (show isSpace ':' = false from rfl), h, String.ofList_toList,
    skipSpace_cons (show isSpace '}' = false from rfl)]
  rfl

theorem readMembers_more {name : String} {value : Json} {text more rest : List Char}
    {members : Members} {fuel : Nat} (h : readValue fuel text = some (value, ',' :: more))
    (hmore : readMembers fuel more = some (members, rest)) :
    readMembers (fuel + 1) (quoted name ++ ':' :: text) =
      some ((name, value) :: members, rest) := by
  rw [readMembers, quoted]
  simp only [List.cons_append, List.append_assoc,
    skipSpace_cons (show isSpace '"' = false from rfl),
    List.nil_append, readString_quoted, bind, Option.bind_some,
    skipSpace_cons (show isSpace ':' = false from rfl), h, String.ofList_toList,
    skipSpace_cons (show isSpace ',' = false from rfl), hmore]
  rfl

def ReadsValues (fuel : Nat) : Prop :=
  ∀ v : Json, v.Exact → v.compact.length ≤ fuel → ∀ rest, Ended rest →
    readValue fuel (v.compact ++ rest) = some (v, rest)

def ReadsItems (fuel : Nat) : Prop :=
  ∀ item items, ExactItems (item :: items) → (compactItems (item :: items)).length < fuel →
    ∀ rest, readItems fuel (compactItems (item :: items) ++ ']' :: rest) =
      some (item :: items, rest)

def ReadsMembers (fuel : Nat) : Prop :=
  ∀ member members, ExactMembers (member :: members) →
    (compactMembers (member :: members)).length < fuel →
      ∀ rest, readMembers fuel (compactMembers (member :: members) ++ '}' :: rest) =
        some (member :: members, rest)

theorem readsValues_zero : ReadsValues 0 := by
  intro v h hfuel
  obtain ⟨c, cs, hcons, -, -⟩ := compact_cons h
  rw [hcons, List.length_cons] at hfuel
  omega

theorem ReadsItems.values {fuel : Nat} (hitems : ReadsItems fuel) (hmembers : ReadsMembers fuel) :
    ReadsValues (fuel + 1) := by
  intro v h hfuel rest hrest
  cases v with
  | null => rfl
  | bool b => cases b <;> rfl
  | integer n => exact readValue_integer h hrest fuel
  | double x => exact h.elim
  | string s =>
    rw [readValue, compact, quoted]
    simp only [List.cons_append, List.append_assoc,
      skipSpace_cons (show isSpace '"' = false from rfl), List.nil_append, readString_quoted,
      Option.map_some, String.ofList_toList]
  | array items =>
    cases items with
    | nil => rfl
    | cons item items =>
      simp only [compact, List.length_append, List.length_cons, List.length_nil] at hfuel
      rw [readValue_array h.1, hitems item items h (by omega) rest]
      rfl
  | object members =>
    cases members with
    | nil => rfl
    | cons member members =>
      simp only [compact, List.length_append, List.length_cons, List.length_nil] at hfuel
      rw [readValue_object, hmembers member members h (by omega) rest]
      rfl

theorem ReadsItems.succ {fuel : Nat} (hvalues : ReadsValues fuel) (hitems : ReadsItems fuel) :
    ReadsItems (fuel + 1) := by
  intro item items h hfuel rest
  rw [readItems]
  cases items with
  | nil =>
    rw [compactItems] at hfuel ⊢
    rw [hvalues item h.1 (by omega) _ (ended_bracket rest)]
    rfl
  | cons next items =>
    rw [compactItems] at hfuel ⊢
    rw [List.length_append, List.length_cons] at hfuel
    rw [List.append_assoc, List.cons_append, hvalues item h.1 (by omega) _ (ended_comma _)]
    have hnext := hitems next items h.2 (by omega) rest
    simp only [bind, Option.bind_some, skipSpace_cons (show isSpace ',' = false from rfl), hnext]
    rfl

theorem ReadsMembers.succ {fuel : Nat} (hvalues : ReadsValues fuel)
    (hmembers : ReadsMembers fuel) : ReadsMembers (fuel + 1) := by
  rintro ⟨name, value⟩ members h hfuel rest
  cases members with
  | nil =>
    rw [compactMembers] at hfuel ⊢
    rw [List.length_append, List.length_cons] at hfuel
    rw [List.append_assoc, List.cons_append]
    exact readMembers_last (hvalues value h.1 (by omega) _ (ended_brace rest))
  | cons next members =>
    rw [compactMembers] at hfuel ⊢
    simp only [List.length_append, List.length_cons] at hfuel
    rw [List.append_assoc, List.cons_append, List.append_assoc, List.cons_append]
    exact readMembers_more (hvalues value h.1 (by omega) _ (ended_comma _))
      (hmembers next members h.2 (by omega) rest)

/-- The text is read back as far as the fuel goes; no step leaves characters that it should take. -/
theorem reads_compact (fuel : Nat) : ReadsValues fuel ∧ ReadsItems fuel ∧ ReadsMembers fuel := by
  induction fuel with
  | zero =>
    exact ⟨readsValues_zero, fun _ _ _ hfuel => absurd hfuel (Nat.not_lt_zero _),
      fun _ _ _ hfuel => absurd hfuel (Nat.not_lt_zero _)⟩
  | succ fuel ih =>
    obtain ⟨hvalues, hitems, hmembers⟩ := ih
    exact ⟨hitems.values hmembers, .succ hvalues hitems, .succ hvalues hmembers⟩

theorem read_render {v : Json} (h : v.Exact) : read v.render = some v := by
  have hread := (reads_compact (v.compact.length + 1)).1 v h (Nat.le_succ _) [] ended_nil
  rw [List.append_nil] at hread
  unfold read render
  simp only [String.toList_ofList, hread]
  rfl

end Values

end CatalogIntake.Json
