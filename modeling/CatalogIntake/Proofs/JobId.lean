import CatalogIntake.JobId
import Mathlib.Tactic.IntervalCases

namespace CatalogIntake.JobId

open Text

def IsHexDigit (c : Char) : Prop := ∃ d < 16, c = Nat.digitChar d

theorem hexValue?_digitChar {d : Nat} (h : d < 16) : hexValue? (Nat.digitChar d) = some d := by
  interval_cases d <;> rfl

theorem utf8Size_of_isHexDigit {c : Char} (h : IsHexDigit c) : c.utf8Size = 1 := by
  obtain ⟨d, hd, rfl⟩ := h
  interval_cases d <;> rfl

theorem isHexDigit_toDigits (n : Nat) : ∀ c ∈ Nat.toDigits 16 n, IsHexDigit c := by
  induction n using Nat.strongRecOn with
  | ind n ih =>
    intro c hc
    rw [Nat.toDigits_eq_if (by decide)] at hc
    split at hc
    · exact ⟨n, ‹_›, List.mem_singleton.mp hc⟩
    · rcases List.mem_append.mp hc with hc | hc
      · exact ih (n / 16) (by omega) c hc
      · exact ⟨n % 16, by omega, List.mem_singleton.mp hc⟩

def appendHex? (n : Nat) (digits : List Char) : Option Nat :=
  digits.foldlM (fun n c => (hexValue? c).map (n * 16 + ·)) n

theorem appendHex?_toDigits (n : Nat) : appendHex? 0 (Nat.toDigits 16 n) = some n := by
  induction n using Nat.strongRecOn with
  | ind n ih =>
    unfold appendHex? at ih ⊢
    rw [Nat.toDigits_eq_if (by decide)]
    split
    · rename_i hlt
      simp [hexValue?_digitChar hlt]
    · rw [List.foldlM_append, ih (n / 16) (by omega)]
      have hlt : n % 16 < 16 := by omega
      simp only [bind, Option.bind, List.foldlM, hexValue?_digitChar hlt, Option.map_some, pure]
      congr 1
      omega

theorem appendHex?_zeros (count : Nat) (digits : List Char) :
    appendHex? 0 (List.replicate count '0' ++ digits) = appendHex? 0 digits := by
  induction count with
  | zero => rfl
  | succ count ih =>
    rw [List.replicate_succ, List.cons_append]
    exact ih

variable (id : JobId)

theorem length_hexDigits : id.hexDigits.length = 32 := by
  have hlt : id.value.toNat < 16 ^ 32 := id.value.isLt
  have hle := (Nat.length_toDigits_le_iff (by decide) (by decide)).mpr hlt
  unfold hexDigits
  simp only [List.length_append, List.length_replicate]
  omega

theorem isHexDigit_hexDigits : ∀ c ∈ id.hexDigits, IsHexDigit c := by
  intro c hc
  unfold hexDigits at hc
  rcases List.mem_append.mp hc with hc | hc
  · exact ⟨0, by decide, (List.mem_replicate.mp hc).2⟩
  · exact isHexDigit_toDigits _ c hc

theorem ofHex?_hexDigits : ofHex? id.hexDigits = some id := by
  unfold ofHex?
  rw [if_pos id.length_hexDigits]
  have hvalue : appendHex? 0 id.hexDigits = some id.value.toNat :=
    (appendHex?_zeros _ _).trans (appendHex?_toDigits _)
  unfold appendHex? at hvalue
  rw [hvalue, Option.map_some, BitVec.ofNat_toNat]
  simp

def hyphenate (d : List Char) : List Char :=
  d.take 8 ++ '-' :: (d.drop 8).take 4 ++ '-' :: (d.drop 12).take 4
    ++ '-' :: (d.drop 16).take 4 ++ '-' :: d.drop 20

theorem ofHyphenated?_hyphenate {d : List Char} (h : d.length = 32) :
    ofHyphenated? (hyphenate d) = ofHex? d := by
  match d, h with
  | [c0, c1, c2, c3, c4, c5, c6, c7, c8, c9, c10, c11, c12, c13, c14, c15, c16, c17, c18, c19,
      c20, c21, c22, c23, c24, c25, c26, c27, c28, c29, c30, c31], _ => rfl

theorem utf8ByteSize_ofList {cs : List Char} (h : ∀ c ∈ cs, c.utf8Size = 1) :
    (String.ofList cs).utf8ByteSize = cs.length := by
  induction cs with
  | nil => rfl
  | cons c rest ih =>
    have hrest := ih fun c' hc' => h c' (List.mem_cons_of_mem c hc')
    rw [← List.singleton_append, String.ofList_append, String.utf8ByteSize_append, hrest]
    have hc : (String.ofList [c]).utf8ByteSize = 1 := by
      rw [← String.singleton_eq_ofList, String.utf8ByteSize_singleton]
      exact h c List.mem_cons_self
    rw [hc, List.length_append, List.length_singleton]

theorem mem_hyphenate {d : List Char} {c : Char} (hc : c ∈ hyphenate d) : c = '-' ∨ c ∈ d := by
  unfold hyphenate at hc
  simp only [List.mem_append, List.mem_cons] at hc
  rcases hc with (((hc | rfl | hc) | rfl | hc) | rfl | hc) | rfl | hc
  · exact .inr (List.mem_of_mem_take hc)
  · exact .inl rfl
  · exact .inr (List.mem_of_mem_drop (List.mem_of_mem_take hc))
  · exact .inl rfl
  · exact .inr (List.mem_of_mem_drop (List.mem_of_mem_take hc))
  · exact .inl rfl
  · exact .inr (List.mem_of_mem_drop (List.mem_of_mem_take hc))
  · exact .inl rfl
  · exact .inr (List.mem_of_mem_drop hc)

theorem length_hyphenate {d : List Char} (h : d.length = 32) : (hyphenate d).length = 36 := by
  unfold hyphenate
  simp [h]

theorem read_text : read id.text = .ok id := by
  have htext : id.text = String.ofList (hyphenate id.hexDigits) := rfl
  have hascii : ∀ c ∈ hyphenate id.hexDigits, c.utf8Size = 1 := by
    intro c hc
    rcases mem_hyphenate hc with rfl | hc
    · rfl
    · exact utf8Size_of_isHexDigit (id.isHexDigit_hexDigits c hc)
  have hsize : id.text.utf8ByteSize = 36 := by
    rw [htext, utf8ByteSize_ofList hascii, length_hyphenate id.length_hexDigits]
  have hlist : id.text.toList = hyphenate id.hexDigits := by
    rw [htext, String.toList_ofList]
  unfold read
  simp only [hsize, hlist, hyphenated?, ofHyphenated?_hyphenate id.length_hexDigits,
    ofHex?_hexDigits]
  rfl

end CatalogIntake.JobId
