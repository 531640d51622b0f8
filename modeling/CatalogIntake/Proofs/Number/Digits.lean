import CatalogIntake.Number.Decimal
import CatalogIntake.Text.Digit
import Mathlib.Tactic.Ring

namespace CatalogIntake.Number

open Text

theorem takeWhile_append {α : Type} {p : α → Bool} (front back : List α)
    (hfront : ∀ a ∈ front, p a) (hback : ∀ a, back.head? = some a → p a = false) :
    (front ++ back).takeWhile p = front ∧ (front ++ back).dropWhile p = back := by
  have hstop : back.takeWhile p = [] ∧ back.dropWhile p = back := by
    cases back with
    | nil => exact ⟨rfl, rfl⟩
    | cons a rest => simp [hback a rfl]
  rw [List.takeWhile_append_of_pos hfront, List.dropWhile_append_of_pos hfront, hstop.1, hstop.2]
  simp

namespace Width

theorem contains_unsigned_iff {bits : Nat} {n : Int} :
    (unsigned bits).contains n ↔ 0 ≤ n ∧ n < 2 ^ bits := by
  simp only [contains, Bool.and_eq_true, decide_eq_true_eq]
  change 0 ≤ n ∧ n ≤ ((2 ^ bits : Nat) : Int) - 1 ↔ _
  rw [Int.le_sub_one_iff, Nat.cast_pow, Nat.cast_ofNat]

theorem contains_unsigned {bits n : Nat} : (unsigned bits).contains n ↔ n < 2 ^ bits := by
  rw [contains_unsigned_iff]
  exact_mod_cast and_iff_right (Nat.zero_le n)

end Width

theorem digitValue?_of_isDigit {c : Char} (h : c.isDigit) :
    digitValue? c = some (c.toNat - '0'.toNat) := by
  unfold digitValue?
  rw [if_pos]
  exact h

def AllDigits (cs : List Char) : Prop := ∀ c ∈ cs, c.isDigit

instance (cs : List Char) : Decidable (AllDigits cs) :=
  decidable_of_iff (cs.all Char.isDigit) List.all_eq_true

theorem allDigits_cons {c : Char} {cs : List Char} :
    AllDigits (c :: cs) ↔ c.isDigit ∧ AllDigits cs := List.forall_mem_cons

theorem AllDigits.append {cs ds : List Char} (hcs : AllDigits cs) (hds : AllDigits ds) :
    AllDigits (cs ++ ds) := by
  intro c hc
  rcases List.mem_append.mp hc with hc | hc
  · exact hcs c hc
  · exact hds c hc

theorem allDigits_toDigits (n : Nat) : AllDigits (Nat.toDigits 10 n) :=
  fun _ hc => Nat.isDigit_of_mem_toDigits (by decide) (by decide) hc

theorem allDigits_zeros (count : Nat) : AllDigits (List.replicate count '0') := by
  intro c hc
  rw [List.eq_of_mem_replicate hc]
  rfl

theorem AllDigits.ne {cs : List Char} (h : AllDigits cs) {c d : Char} (hc : c ∈ cs)
    (hd : d.isDigit = false) : c ≠ d := by
  rintro rfl
  rw [h c hc] at hd
  cases hd

theorem readMagnitude_eq {cs : List Char} (h : AllDigits cs) (n : Nat) :
    Decimal.readMagnitude n cs = .ok (Nat.ofDigitChars 10 cs n) := by
  induction cs generalizing n with
  | nil => rfl
  | cons c rest ih =>
    have hc := (allDigits_cons.mp h).1
    rw [Decimal.readMagnitude, digitValue?_of_isDigit hc]
    · simp only
      rw [ih (allDigits_cons.mp h).2, Nat.ofDigitChars_cons, Nat.mul_comm 10]
    · exact h.ne List.mem_cons_self rfl

theorem ofDigitChars_ge (cs : List Char) (n : Nat) : n ≤ Nat.ofDigitChars 10 cs n := by
  rw [Nat.ofDigitChars_eq_ofDigitChars_zero]
  have hpow : n ≤ 10 ^ cs.length * n := Nat.le_mul_of_pos_left n (Nat.pow_pos (by decide))
  omega

/-- Digits are read if the number that they write is within the width: those before the last one
write numbers that are closer to zero. -/
theorem readDigits_eq {w : Width} {sign : Int} (hsign : sign = 1 ∨ sign = -1)
    {cs : List Char} (h : AllDigits cs) {n : Nat} (hzero : w.contains 0)
    (hfit : w.contains (sign * Nat.ofDigitChars 10 cs n)) :
    readDigits w sign (sign * n) cs = .ok (sign * Nat.ofDigitChars 10 cs n) := by
  induction cs generalizing n with
  | nil => rfl
  | cons c rest ih =>
    rw [Nat.ofDigitChars_cons] at hfit ⊢
    rw [readDigits, digitValue?_of_isDigit (allDigits_cons.mp h).1]
    have hnext : sign * (n : Int) * 10 + sign * ((c.toNat - '0'.toNat : Nat) : Int) =
        sign * ((10 * n + (c.toNat - '0'.toNat) : Nat) : Int) := by
      push_cast
      ring
    have hle := ofDigitChars_ge rest (10 * n + (c.toNat - '0'.toNat))
    simp only [hnext]
    have hbetween : w.least ≤ sign * ((10 * n + (c.toNat - '0'.toNat) : Nat) : Int) ∧
        sign * ((10 * n + (c.toNat - '0'.toNat) : Nat) : Int) ≤ w.greatest := by
      simp only [Width.contains, Bool.and_eq_true, decide_eq_true_eq] at hzero hfit
      rcases hsign with rfl | rfl <;> omega
    rw [if_neg (by omega), if_neg (by omega)]
    exact ih (allDigits_cons.mp h).2 hfit

/-- An integer of the width is read from its digits, with or without zeros in front of them. -/
theorem readInteger_eq {w : Width} {cs : List Char} (hne : cs ≠ []) (h : AllDigits cs)
    (hzero : w.contains 0) (hfit : w.contains (Nat.ofDigitChars 10 cs 0)) :
    readInteger w (String.ofList cs) = .ok (Nat.ofDigitChars 10 cs 0) := by
  have hread : readDigits w 1 0 cs = .ok (Nat.ofDigitChars 10 cs 0 : Int) := by
    simpa only [one_mul, Nat.cast_zero] using
      readDigits_eq (n := 0) (.inl rfl) h hzero (by rwa [one_mul])
  have hhead : ∀ c, cs.head? = some c → c ≠ '+' ∧ c ≠ '-' := by
    intro c hc
    have hmem := List.mem_of_head? hc
    exact ⟨h.ne hmem rfl, h.ne hmem rfl⟩
  rw [readInteger, String.toList_ofList]
  split
  · exact absurd rfl hne
  · exact absurd rfl (hhead _ rfl).1
  · exact absurd rfl (hhead _ rfl).2
  · exact absurd rfl (hhead _ rfl).1
  · exact absurd rfl (hhead _ rfl).2
  · exact hread

theorem readDigits_cons {w : Width} {sign value n : Int} {c : Char} {rest : List Char}
    (h : readDigits w sign value (c :: rest) = .ok n) :
    ∃ next, w.contains next ∧ readDigits w sign next rest = .ok n := by
  rw [readDigits] at h
  split at h
  · cases h
  · rename_i d _
    have hsplit : ∀ next : Int,
        (if next > w.greatest then .error .tooLarge
          else if next < w.least then .error .tooSmall
          else readDigits w sign next rest) = Except.ok n →
        w.contains next ∧ readDigits w sign next rest = .ok n := by
      intro next hnext
      split at hnext
      · cases hnext
      · split at hnext
        · cases hnext
        · simp only [Width.contains, Bool.and_eq_true, decide_eq_true_eq]
          exact ⟨by omega, hnext⟩
    exact ⟨_, hsplit _ h⟩

theorem contains_of_readDigits {w : Width} {sign value n : Int} {cs : List Char}
    (hvalue : w.contains value) (h : readDigits w sign value cs = .ok n) : w.contains n := by
  induction cs generalizing value with
  | nil =>
    cases h
    exact hvalue
  | cons c rest ih =>
    obtain ⟨next, hnext, hrest⟩ := readDigits_cons h
    exact ih hnext hrest

theorem contains_of_readInteger {w : Width} {s : String} {n : Int} (hzero : w.contains 0)
    (h : readInteger w s = .ok n) : w.contains n := by
  unfold readInteger at h
  split at h
  · cases h
  · cases h
  · cases h
  · exact contains_of_readDigits hzero h
  · split at h
    · exact contains_of_readDigits hzero h
    · cases h
  · exact contains_of_readDigits hzero h

theorem digitsValue_eq {cs : List Char} (h : AllDigits cs) (n : Nat) :
    cs.foldl (fun n c => n * 10 + (digitValue? c).getD 0) n = Nat.ofDigitChars 10 cs n := by
  induction cs generalizing n with
  | nil => rfl
  | cons c rest ih =>
    rw [List.foldl_cons, digitValue?_of_isDigit (allDigits_cons.mp h).1,
      ih (allDigits_cons.mp h).2, Nat.ofDigitChars_cons, Nat.mul_comm 10]
    rfl

theorem head?_toDigits_ne_zero {n : Nat} (h : 0 < n) : (Nat.toDigits 10 n).head? ≠ some '0' := by
  induction n using Nat.strongRecOn with
  | ind n ih =>
    rw [Nat.toDigits_eq_if (by decide)]
    split
    · simp [Nat.pos_iff_ne_zero.mp h]
    · rw [List.head?_append,
        Option.or_of_isSome (List.isSome_head?.mpr Nat.toDigits_ne_nil)]
      exact ih (n / 10) (by omega) (by omega)

theorem toDigits_mul_pow {n : Nat} (h : 0 < n) (count : Nat) :
    Nat.toDigits 10 (n * 10 ^ count) = Nat.toDigits 10 n ++ List.replicate count '0' := by
  induction count with
  | zero => simp
  | succ count ih =>
    have hpos : 0 < n * 10 ^ count := Nat.mul_pos h (Nat.pow_pos (by decide))
    have happend := Nat.toDigits_append_toDigits (b := 10) (n := n * 10 ^ count) (d := 0)
      (by decide) hpos (by decide)
    rw [Nat.pow_succ, ← Nat.mul_assoc, Nat.mul_comm _ 10]
    rw [Nat.add_zero, ih, Nat.toDigits_zero] at happend
    rw [← happend, List.append_assoc, List.replicate_succ']

end CatalogIntake.Number
