import CatalogIntake.Proofs.Number.Digits
import CatalogIntake.Proofs.Text.Padding
import CatalogIntake.Proofs.Text.Utf8
import CatalogIntake.Settings.Environment

namespace CatalogIntake

open Number Text

def Path.IsText (path : Path) : Prop := ∃ text, path = .ofText text

namespace Environment

section Lookup

variable {env : Environment} {name : String} {octets : List UInt8}

theorem octets?_of_mem (hnodup : (env.map Prod.fst).Nodup) (h : (name, octets) ∈ env) :
    env.octets? name = some octets := by
  induction env with
  | nil => cases h
  | cons entry rest ih =>
    obtain ⟨first, value⟩ := entry
    rw [List.map_cons, List.nodup_cons] at hnodup
    rcases List.mem_cons.mp h with heq | hmem
    · cases heq
      exact List.lookup_cons_self
    · have hne : (name == first) = false := by
        rw [beq_eq_false_iff_ne]
        rintro rfl
        exact hnodup.1 (List.mem_map.mpr ⟨_, hmem, rfl⟩)
      rw [octets?, List.lookup_cons, hne]
      exact ih hnodup.2 hmem

theorem octets?_append (others : Environment) (h : env.octets? name = some octets) :
    octets? (env ++ others) name = some octets := by
  unfold octets? at h ⊢
  rw [List.lookup_append, h, Option.some_or]

theorem get?_of_octets? {text : String} (h : env.octets? name = some (Utf8.encode text)) :
    env.get? name = some text := by
  rw [get?, h, Option.bind_some, Utf8.decode_encode]
  rfl

end Lookup

/-- The variables that are set to texts keep them. -/
def Keeps (env later : Environment) : Prop :=
  ∀ name text, env.get? name = some text → later.get? name = some text

/-- The variable is not set, and must not be set to this value. -/
def Refuses (env : Environment) (u : Unsettable) : Prop :=
  env.get? u.name = none ∧ '\x00' ∈ u.value.toList

/-- No value holds a NUL. -/
def IsClean (env : Environment) : Prop := ∀ variable_ ∈ env, 0 ∉ variable_.2

theorem Refuses.of_later {env later : Environment} {u : Unsettable} (h : later.Refuses u)
    (keeps : env.Keeps later) : env.Refuses u := by
  refine ⟨?_, h.2⟩
  cases hget : env.get? u.name with
  | none => rfl
  | some text => cases h.1.symm.trans (keeps _ _ hget)

theorem keeps_cons {env : Environment} {name : String} (unset : env.get? name = none)
    (octets : List UInt8) : env.Keeps ((name, octets) :: env) := by
  intro other text hset
  have hne : (other == name) = false := by
    rw [beq_eq_false_iff_ne]
    rintro rfl
    cases unset.symm.trans hset
  rw [get?, octets?, List.lookup_cons, hne]
  exact hset

theorem addMissing_cases (env : Environment) (name value : String) :
    env.addMissing name value = .ok env ∨
      (env.get? name = none ∧ '\x00' ∉ value.toList ∧
        env.addMissing name value = .ok ((name, Utf8.encode value) :: env)) ∨
      env.Refuses ⟨name, value⟩ ∧ env.addMissing name value = .error ⟨name, value⟩ := by
  unfold addMissing
  by_cases hset : (env.get? name).isSome
  · exact .inl (if_pos hset)
  · rw [if_neg hset]
    have hunset : env.get? name = none := by simpa using hset
    by_cases hnul : '\x00' ∈ value.toList
    · exact .inr (.inr ⟨⟨hunset, hnul⟩, if_pos (List.contains_iff_mem.mpr hnul)⟩)
    · exact .inr (.inl ⟨hunset, hnul, if_neg fun h => hnul (List.contains_iff_mem.mp h)⟩)

/-- The variable is set to a text that shows what it stands for. -/
def Sets (env : Environment) (name : String) (Shows : String → Prop) : Prop :=
  ∃ text, env.get? name = some text ∧ Shows text

/-- A number in decimal, between blanks; zeros may precede it. -/
def WritesNumber (n : Nat) (text : String) : Prop :=
  ∃ digits, digits ≠ [] ∧ AllDigits digits ∧ Nat.ofDigitChars 10 digits 0 = n ∧ Padded digits text

/-- A policy under its name in any case, between blanks. -/
def NamesPolicy (policy : ParseFailurePolicy) (text : String) : Prop :=
  ∃ spelled, Spells policy.name spelled ∧ Padded spelled text

theorem Sets.mono {env later : Environment} {name : String} {Shows : String → Prop}
    (h : env.Sets name Shows) (keeps : env.Keeps later) : later.Sets name Shows := by
  obtain ⟨text, hset, hshows⟩ := h
  exact ⟨text, keeps _ _ hset, hshows⟩

theorem writesNumber_toDigits (n : Nat) :
    WritesNumber n (String.ofList (Nat.toDigits 10 n)) :=
  ⟨_, Nat.toDigits_ne_nil, allDigits_toDigits n, Nat.ofDigitChars_ten_toDigits, padded_ofList _⟩

theorem namesPolicy_name (policy : ParseFailurePolicy) : NamesPolicy policy policy.name := by
  refine ⟨policy.name.toList, ?_, ?_⟩
  · cases policy <;> rfl
  · have hpadded := padded_ofList policy.name.toList
    rwa [String.ofList_toList] at hpadded

variable {env : Environment} {name : String}

theorem value_of_get? {α : Type} {read : String → Except String α} {default a : α} {text : String}
    (h : env.get? name = some text) (hread : read (trim text) = .ok a) :
    env.value name read default = .ok a := by
  rw [value, h]
  simp only [hread]
  rfl

theorem value_eq_ok {α : Type} {read : String → Except String α} {default a : α}
    (h : env.value name read default = .ok a) : a = default ∨ ∃ text, read text = .ok a := by
  rw [value] at h
  split at h
  · exact .inl (Except.ok.inj h).symm
  · rename_i text _
    cases hread : read (trim text) with
    | error reason =>
      rw [hread] at h
      cases h
    | ok b =>
      rw [hread] at h
      cases h
      exact .inr ⟨_, hread⟩

theorem natural_of_sets {bits n : Nat} (hfit : n < 2 ^ bits)
    (h : env.Sets name (WritesNumber n)) (default : Nat) :
    env.natural (.unsigned bits) name default = .ok n := by
  obtain ⟨text, hset, digits, hne, hdigits, hvalue, hpadded⟩ := h
  have htrim : trim text = String.ofList digits :=
    trim_of_padded hpadded hne (fun c hc => isBlank_of_isDigit (hdigits c hc))
  apply value_of_get? hset
  have hzero := Width.contains_unsigned.mpr (Nat.two_pow_pos bits)
  rw [htrim, readInteger_eq hne hdigits hzero (Width.contains_unsigned.mpr (by rwa [hvalue])),
    hvalue]
  rfl

theorem policy_of_sets {p : ParseFailurePolicy} (h : env.Sets name (NamesPolicy p))
    (default : ParseFailurePolicy) : env.policy name default = .ok p := by
  obtain ⟨text, hset, spelled, hspells, hpadded⟩ := h
  have hname : p.name ≠ "" ∧ p.name.toList.all isPlain := by
    cases p <;> decide
  have htrim := hspells.trim_eq hpadded hname.1 hname.2
  have hagain := hspells.trim_eq (padded_ofList spelled) hname.1 hname.2
  apply value_of_get? hset
  rw [htrim, ParseFailurePolicy.read, hagain, hspells.lowercase_eq hname.2]
  cases p <;> rfl

theorem isText_path (env : Environment) (name : String) {default : Path} (h : default.IsText) :
    (env.path name default).IsText := by
  unfold path
  cases env.get? name with
  | none => exact h
  | some text => exact ⟨text, rfl⟩

theorem lt_of_natural {bits default n : Nat} (hdefault : default < 2 ^ bits)
    (h : env.natural (.unsigned bits) name default = .ok n) : n < 2 ^ bits := by
  rcases value_eq_ok h with rfl | ⟨text, hread⟩
  · exact hdefault
  · cases hinteger : readInteger (.unsigned bits) text with
    | error e =>
      simp only [hinteger] at hread
      cases hread
    | ok found =>
      simp only [hinteger] at hread
      obtain rfl : found.toNat = n := Except.ok.inj hread
      have hzero := Width.contains_unsigned.mpr (Nat.two_pow_pos bits)
      have hfound := contains_of_readInteger hzero hinteger
      apply Width.contains_unsigned.mp
      rwa [Int.toNat_of_nonneg (Width.contains_unsigned_iff.mp hfound).1]

end Environment

end CatalogIntake
