import CatalogIntake.Proofs.Number.Decimal

namespace CatalogIntake.Number.Decimal

theorem trailingZeros_spec {fuel n : Nat} (pos : 0 < n) (enough : n < 10 ^ fuel) :
    ∃ m, n = m * 10 ^ trailingZeros fuel n ∧ ¬ 10 ∣ m := by
  induction fuel generalizing n with
  | zero => omega
  | succ fuel ih =>
    rw [trailingZeros]
    split
    · rename_i hten
      have henough : n / 10 < 10 ^ fuel := by
        rw [Nat.pow_succ] at enough
        omega
      obtain ⟨m, hm, hlast⟩ := ih (n := n / 10) (by omega) henough
      refine ⟨m, ?_, hlast⟩
      calc
        n = n / 10 * 10 := (Nat.div_mul_cancel (Nat.dvd_of_mod_eq_zero hten)).symm
        _ = m * 10 ^ trailingZeros fuel (n / 10) * 10 := congrArg (· * 10) hm
        _ = m * 10 ^ (trailingZeros fuel (n / 10) + 1) := by rw [Nat.pow_succ, Nat.mul_assoc]
    · rename_i hten
      exact ⟨n, by simp, fun h => hten (Nat.mod_eq_zero_of_dvd h)⟩

theorem lt_pow_length_digitsOf (n : Nat) : n < 10 ^ (digitsOf n).length :=
  (Nat.length_toDigits_le_iff (by decide) Nat.length_toDigits_pos).mp (Nat.le_refl _)

/-- What is taken off a number are factors of ten, and no such factor is left. -/
theorem normalized_spec {d : Decimal} (nonzero : d.unscaled ≠ 0) :
    ∃ zeros : Nat, d.unscaled = d.normalized.unscaled * 10 ^ zeros ∧
      d.normalized.scale = d.scale - zeros ∧ ¬ 10 ∣ d.normalized.unscaled := by
  have hpos : 0 < d.unscaled.natAbs := by omega
  obtain ⟨m, hm, hlast⟩ := trailingZeros_spec hpos (lt_pow_length_digitsOf d.unscaled.natAbs)
  unfold normalized
  rw [if_neg nonzero]
  simp only [Nat.pow_eq]
  generalize trailingZeros (digitsOf d.unscaled.natAbs).length d.unscaled.natAbs = zeros at hm
  have hdvd : (10 : Int) ^ zeros ∣ d.unscaled := by
    apply Int.natAbs_dvd_natAbs.mp
    rw [Int.natAbs_pow]
    exact Dvd.intro_left m hm.symm
  obtain ⟨u, hu⟩ := exists_eq_mul_left_of_dvd hdvd
  have hpow : ((10 ^ zeros : Nat) : Int) = 10 ^ zeros := by
    push_cast
    rfl
  have hquotient : d.unscaled / 10 ^ zeros = u := by
    rw [hu]
    exact Int.mul_ediv_cancel u (pow_ne_zero zeros (by decide))
  rw [hpow, hquotient]
  refine ⟨zeros, hu, rfl, ?_⟩
  have hlength : m = u.natAbs := by
    apply Nat.eq_of_mul_eq_mul_right (Nat.pow_pos (n := zeros) (show 0 < 10 by decide))
    rw [← hm, hu, Int.natAbs_mul, Int.natAbs_pow]
    rfl
  rw [hlength] at hlast
  exact fun hten => hlast (Int.natAbs_dvd_natAbs.mpr hten)

theorem value_normalized (d : Decimal) : d.normalized.value = d.value := by
  by_cases hzero : d.unscaled = 0
  · unfold normalized value
    rw [if_pos hzero, hzero]
    simp
  · obtain ⟨zeros, hunscaled, hscale, -⟩ := normalized_spec hzero
    calc
      d.normalized.value = d.normalized.unscaled * 10 ^ (zeros - d.scale) := by
        rw [value, hscale, neg_sub]
      _ = (d.normalized.unscaled * 10 ^ zeros : Int) * 10 ^ (-d.scale) := by
        rw [sub_eq_add_neg, zpow_add₀ (by norm_num), zpow_natCast, ← mul_assoc]
        push_cast
        rfl
      _ = d.value := by rw [← hunscaled, value]

/-- So many places write the value of a decimal just when it has no finer digit. -/
theorem scale_normalized_le_iff (d : Decimal) (places : Nat) :
    d.normalized.scale ≤ places ↔ ∃ n : ℤ, d.value * 10 ^ places = n := by
  by_cases hzero : d.unscaled = 0
  · have hvalue : d.value = 0 := by
      rw [value, hzero]
      simp
    have hscale : d.normalized.scale = 0 := by
      rw [normalized, if_pos hzero]
    exact iff_of_true (hscale ▸ Int.natCast_nonneg places) ⟨0, by simp [hvalue]⟩
  obtain ⟨zeros, -, -, hlast⟩ := normalized_spec hzero
  have hvalue : d.value * 10 ^ places =
      d.normalized.unscaled * 10 ^ (places - d.normalized.scale) := by
    rw [← value_normalized, value, mul_assoc, sub_eq_neg_add, zpow_add₀ (by norm_num),
      zpow_natCast]
  rw [hvalue]
  constructor
  · intro hle
    obtain ⟨k, hk⟩ := Int.eq_ofNat_of_zero_le (Int.sub_nonneg.mpr hle)
    refine ⟨d.normalized.unscaled * 10 ^ k, ?_⟩
    rw [hk, zpow_natCast]
    push_cast
    rfl
  · rintro ⟨n, hn⟩
    by_contra hfine
    obtain ⟨k, hk⟩ := Int.eq_ofNat_of_zero_le
      (show 0 ≤ d.normalized.scale - places - 1 by omega)
    apply hlast
    have hunscaled : (d.normalized.unscaled : ℚ) = n * 10 ^ (k + 1) := by
      rw [← hn, mul_assoc, show (places : ℤ) - d.normalized.scale = -((k + 1 : Nat) : ℤ) by omega,
        zpow_neg, zpow_natCast, inv_mul_cancel₀ (pow_ne_zero _ (by norm_num)), mul_one]
    have hwhole : d.normalized.unscaled = n * 10 ^ (k + 1) := by exact_mod_cast hunscaled
    rw [hwhole, pow_succ]
    exact ⟨n * 10 ^ k, by ring⟩

end CatalogIntake.Number.Decimal
