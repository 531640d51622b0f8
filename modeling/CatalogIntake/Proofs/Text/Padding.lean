import CatalogIntake.Proofs.Number.Digits
import CatalogIntake.Text.Blank
import CatalogIntake.Text.Lowercase

namespace CatalogIntake.Text

section Padded

def Padded (core : List Char) (text : String) : Prop :=
  ∃ before after : List Char, before.all isBlank ∧ after.all isBlank ∧
    text.toList = before ++ core ++ after

theorem padded_ofList (core : List Char) : Padded core (String.ofList core) :=
  ⟨[], [], rfl, rfl, by simp⟩

theorem dropWhile_blank_append {blanks rest : List Char} (hblanks : blanks.all isBlank)
    (hrest : ∀ c, rest.head? = some c → isBlank c = false) :
    (blanks ++ rest).dropWhile isBlank = rest :=
  (Number.takeWhile_append blanks rest (List.all_eq_true.mp hblanks) hrest).2

variable {core : List Char} {text : String}

theorem trim_of_padded (h : Padded core text) (hne : core ≠ [])
    (hcore : ∀ c ∈ core, isBlank c = false) : trim text = String.ofList core := by
  obtain ⟨before, after, hbefore, hafter, htext⟩ := h
  have hfront : (before ++ (core ++ after)).dropWhile isBlank = core ++ after := by
    apply dropWhile_blank_append hbefore
    intro c hc
    rw [List.head?_append, Option.or_of_isSome (List.isSome_head?.mpr hne)] at hc
    exact hcore c (List.mem_of_head? hc)
  have hend : (after.reverse ++ core.reverse).dropWhile isBlank = core.reverse := by
    apply dropWhile_blank_append (by rwa [List.all_reverse])
    intro c hc
    exact hcore c (List.mem_reverse.mp (List.mem_of_head? hc))
  rw [trim, htext, List.append_assoc, hfront, dropBlankEnd, List.reverse_append, hend,
    List.reverse_reverse]

end Padded

section Folding

theorem isBlank_of_isDigit {c : Char} (h : c.isDigit) : isBlank c = false := by
  have hrange : 0x30 ≤ c.toNat ∧ c.toNat ≤ 0x39 := by
    simpa [Char.isDigit, UInt32.le_iff_toNat_le] using h
  simp [isBlank]
  omega

theorem smallLetter_of_ascii {c : Char} (h : c.toNat < 0x80) : smallLetter c = c.toLower := by
  have hall : ∀ n < 0x80, smallLetter (Char.ofNat n) = (Char.ofNat n).toLower := by decide +kernel
  rw [← Char.ofNat_toNat c]
  exact hall _ h

theorem isBlank_toLower {c : Char} (h : c.toNat < 0x80) : isBlank c.toLower = isBlank c := by
  have hall : ∀ n < 0x80, isBlank (Char.ofNat n).toLower = isBlank (Char.ofNat n) := by
    decide +kernel
  rw [← Char.ofNat_toNat c]
  exact hall _ h

theorem ascii_of_toLower {c : Char} (h : c.toLower.toNat < 0x80) : c.toNat < 0x80 := by
  unfold Char.toLower at h
  split at h
  · rename_i hcapital
    have hle : c.toNat ≤ 0x5a := UInt32.le_iff_toNat_le.mp hcapital.2
    omega
  · exact h

/-- The sigma and the dotted capital that fold by rules of their own are not in ASCII. -/
theorem lowercaseFrom_of_ascii {cs : List Char} (h : ∀ c ∈ cs, c.toNat < 0x80)
    (before : List Char) : lowercaseFrom before cs = cs.map Char.toLower := by
  induction cs generalizing before with
  | nil => rfl
  | cons c rest ih =>
    have hc := h c List.mem_cons_self
    rw [lowercaseFrom, smallLetter_of_ascii hc, ih (fun d hd => h d (List.mem_cons_of_mem _ hd)),
      List.map_cons]
    · rintro rfl
      exact absurd hc (by decide)
    · rintro rfl
      exact absurd hc (by decide)

def Spells (word : String) (spelled : List Char) : Prop :=
  spelled.map Char.toLower = word.toList

instance (word : String) (spelled : List Char) : Decidable (Spells word spelled) :=
  inferInstanceAs (Decidable (spelled.map Char.toLower = word.toList))

variable {word text : String} {spelled : List Char}

def isPlain (c : Char) : Bool := c.toNat < 0x80 && !isBlank c

theorem Spells.plain (h : Spells word spelled) (hword : word.toList.all isPlain) :
    ∀ c ∈ spelled, c.toNat < 0x80 ∧ isBlank c = false := by
  intro c hc
  have hplain : isPlain c.toLower := by
    apply List.all_eq_true.mp hword
    rw [← h]
    exact List.mem_map_of_mem hc
  simp only [isPlain, Bool.and_eq_true, decide_eq_true_eq, Bool.not_eq_true'] at hplain
  have hascii := ascii_of_toLower hplain.1
  exact ⟨hascii, isBlank_toLower hascii ▸ hplain.2⟩

theorem Spells.trim_eq (h : Spells word spelled) (hpadded : Padded spelled text) (hne : word ≠ "")
    (hword : word.toList.all isPlain) : trim text = String.ofList spelled := by
  apply trim_of_padded hpadded
  · rintro rfl
    exact hne (String.toList_eq_nil_iff.mp h.symm)
  · exact fun c hc => (h.plain hword c hc).2

theorem Spells.lowercase_eq (h : Spells word spelled) (hword : word.toList.all isPlain) :
    lowercase (String.ofList spelled) = word := by
  rw [lowercase, String.toList_ofList,
    lowercaseFrom_of_ascii (fun c hc => (h.plain hword c hc).1), h, String.ofList_toList]

end Folding

end CatalogIntake.Text
