import CatalogIntake.Proofs.Number.Digits
import Mathlib.Algebra.Field.Rat
import Mathlib.Algebra.Order.Field.Basic

namespace CatalogIntake.Number.Decimal

def value (d : Decimal) : ℚ := d.unscaled * 10 ^ (-d.scale)

def asPrinted (d : Decimal) : Decimal :=
  if d.unscaled = 0 then ⟨0, 0⟩
  else if d.scale ≤ 0 ∧ -d.scale ≤ printed.trailingZeros then
    ⟨d.unscaled * 10 ^ d.scale.natAbs, 0⟩
  else d

section Reading

inductive Marked : List Char → Int → Prop
  | plain : Marked [] 0
  | exponent {mark : Char} {text : List Char} {e : Int} (hmark : isExponentMark mark)
      (hread : readInteger Width.i128 (String.ofList text) = .ok e) : Marked (mark :: text) e

theorem not_isExponentMark {c : Char} (h : c.isDigit ∨ c = '-' ∨ c = '.') :
    isExponentMark c = false := by
  unfold isExponentMark
  rcases h with h | rfl | rfl
  · have he : c ≠ 'e' := by
      rintro rfl
      cases h
    have hE : c ≠ 'E' := by
      rintro rfl
      cases h
    simp [he, hE]
  · rfl
  · rfl

theorem read_of_parts {base tail digits : List Char} {places : Nat} {exponent unscaled : Int}
    (hbase : ∀ c ∈ base, c.isDigit ∨ c = '-' ∨ c = '.') (hne : base ≠ [])
    (htail : Marked tail exponent) (hsplit : splitPoint base = (digits, places))
    (hscale : Width.i64.contains (places - exponent))
    (hunscaled : readUnscaled digits = .ok unscaled) :
    read (String.ofList (base ++ tail)) = .ok ⟨unscaled, places - exponent⟩ := by
  have hfront : ∀ c ∈ base, (!isExponentMark c) = true := by
    intro c hc
    rw [not_isExponentMark (hbase c hc)]
    rfl
  have hback : ∀ c, tail.head? = some c → (!isExponentMark c) = false := by
    intro c hc
    cases htail with
    | plain => cases hc
    | exponent hmark hread =>
      cases hc
      simp [hmark]
  obtain ⟨htake, hdrop⟩ := takeWhile_append _ _ hfront hback
  have hempty : base.isEmpty = false := List.isEmpty_eq_false_iff.mpr hne
  unfold read
  simp only [String.toList_ofList, htake, hdrop]
  cases htail with
  | plain =>
    simp only [hempty, hsplit, hscale, hunscaled, Except.mapError, bind, Except.bind, pure,
      Except.pure, Bool.false_eq_true, if_false, Bool.not_true]
  | exponent hmark hread =>
    simp only [hread, hempty, hsplit, hscale, hunscaled, Except.mapError, bind, Except.bind, pure,
      Except.pure, Bool.false_eq_true, if_false, Bool.not_true]

theorem splitPoint_of_no_point {cs : List Char} (h : '.' ∉ cs) : splitPoint cs = (cs, 0) := by
  have hfront : ∀ c ∈ cs, (c != '.') = true := by
    intro c hc
    rw [bne_iff_ne]
    rintro rfl
    exact h hc
  obtain ⟨htake, hdrop⟩ := takeWhile_append cs [] hfront (by simp)
  rw [List.append_nil] at htake hdrop
  unfold splitPoint
  simp only [htake, hdrop]

theorem splitPoint_point {lead trail : List Char} (hlead : '.' ∉ lead)
    (htrail : AllDigits trail) :
    splitPoint (lead ++ '.' :: trail) = (lead ++ trail, trail.length) := by
  have hfront : ∀ c ∈ lead, (c != '.') = true := by
    intro c hc
    rw [bne_iff_ne]
    rintro rfl
    exact hlead hc
  obtain ⟨htake, hdrop⟩ := takeWhile_append lead ('.' :: trail) hfront (by simp)
  have hfilter : trail.filter (· != '_') = trail := by
    rw [List.filter_eq_self]
    intro c hc
    exact bne_iff_ne.mpr (htrail.ne hc rfl)
  unfold splitPoint
  simp only [htake, hdrop, hfilter]

theorem readUnsigned_eq {ds : List Char} (h : AllDigits ds) (hne : ds ≠ []) :
    readUnsigned ds = .ok (Nat.ofDigitChars 10 ds 0) := by
  obtain ⟨d, rest, rfl⟩ := List.exists_cons_of_ne_nil hne
  unfold readUnsigned
  split
  · contradiction
  · rename_i heq
    cases heq
    exact absurd ((allDigits_cons.mp h).1) (by decide)
  · exact readMagnitude_eq h 0

theorem readUnscaled_minus {ds : List Char} (h : AllDigits ds) :
    readUnscaled ('-' :: ds) = (readUnsigned ds).map fun n => -(n : Int) := by
  rw [readUnscaled]
  rintro rest rfl
  exact absurd ((allDigits_cons.mp h).1) (by decide)

theorem readUnscaled_digits {ds : List Char} (h : AllDigits ds) :
    readUnscaled ds = (readUnsigned ds).map fun n => (n : Int) := by
  rw [readUnscaled]
  all_goals
    rintro rest rfl
    exact absurd ((allDigits_cons.mp h).1) (by decide)

theorem readUnscaled_eq {ds : List Char} (h : AllDigits ds) (hne : ds ≠ []) {n : Int}
    (hvalue : Nat.ofDigitChars 10 ds 0 = n.natAbs) : readUnscaled (signOf n ++ ds) = .ok n := by
  have hread := readUnsigned_eq h hne
  rw [hvalue] at hread
  unfold signOf
  split
  · rename_i hneg
    have hn : -(n.natAbs : Int) = n := by omega
    rw [List.singleton_append, readUnscaled_minus h, hread]
    exact congrArg Except.ok hn
  · rename_i hpos
    have hn : (n.natAbs : Int) = n := by omega
    rw [List.nil_append, readUnscaled_digits h, hread]
    exact congrArg Except.ok hn

theorem readInteger_plus (w : Width) {ds : List Char} (hne : ds ≠ []) :
    readInteger w (String.ofList ('+' :: ds)) = readDigits w 1 0 ds := by
  obtain ⟨d, rest, rfl⟩ := List.exists_cons_of_ne_nil hne
  unfold readInteger
  rw [String.toList_ofList]
  rfl

theorem readInteger_minus {w : Width} (hneg : w.least < 0) {ds : List Char} (hne : ds ≠ []) :
    readInteger w (String.ofList ('-' :: ds)) = readDigits w (-1) 0 ds := by
  obtain ⟨d, rest, rfl⟩ := List.exists_cons_of_ne_nil hne
  unfold readInteger
  rw [String.toList_ofList]
  exact if_pos hneg

theorem readInteger_signedExponent {w : Width} (hneg : w.least < 0) {e : Int} (h0 : w.contains 0)
    (h : w.contains e) : readInteger w (String.ofList (signedExponent e)) = .ok e := by
  have hdigits := allDigits_toDigits e.natAbs
  have hvalue : Nat.ofDigitChars 10 (Nat.toDigits 10 e.natAbs) 0 = e.natAbs :=
    Nat.ofDigitChars_ten_toDigits
  unfold signedExponent digitsOf
  split
  · rename_i hsign
    have he : (-1 : Int) * (e.natAbs : Nat) = e := by omega
    have hread := readDigits_eq (.inr rfl) hdigits (n := 0) h0 (by rwa [hvalue, he])
    rw [hvalue, he] at hread
    rw [readInteger_minus hneg Nat.toDigits_ne_nil]
    exact hread
  · rename_i hsign
    have he : (1 : Int) * (e.natAbs : Nat) = e := by omega
    have hread := readDigits_eq (.inl rfl) hdigits (n := 0) h0 (by rwa [hvalue, he])
    rw [hvalue, he] at hread
    rw [readInteger_plus w Nat.toDigits_ne_nil]
    exact hread

theorem toList_toString_ofNat (n : Nat) : (toString (n : Int)).toList = Nat.toDigits 10 n := by
  change n.repr.toList = _
  exact Nat.toList_repr

theorem toList_toString_negSucc (n : Nat) :
    (toString (Int.negSucc n)).toList = '-' :: Nat.toDigits 10 (n + 1) := by
  change ("-" ++ (n + 1).repr).toList = _
  rw [String.toList_append, Nat.toList_repr]
  rfl

/-- The exponent after a mark, with its sign even when it is not negative. -/
theorem signedExponent_eq (e : Int) :
    (if e < 0 then [] else ['+']) ++ (toString e).toList = signedExponent e := by
  unfold signedExponent digitsOf
  cases e with
  | ofNat n =>
    have hn : ¬ (Int.ofNat n < 0) := by simp
    rw [if_neg hn, if_neg hn]
    exact congrArg _ (toList_toString_ofNat n)
  | negSucc n =>
    rw [if_pos (Int.negSucc_lt_zero n), if_pos (Int.negSucc_lt_zero n)]
    exact toList_toString_negSucc n

theorem mem_signOf {n : Int} {c : Char} (h : c ∈ signOf n) : c = '-' := by
  unfold signOf at h
  split at h
  · exact List.mem_singleton.mp h
  · cases h

theorem point_not_mem {n : Int} {ds : List Char} (h : AllDigits ds) : '.' ∉ signOf n ++ ds := by
  intro hc
  rcases List.mem_append.mp hc with hc | hc
  · exact absurd (mem_signOf hc) (by decide)
  · exact h.ne hc rfl rfl

theorem read_whole {n e : Int} {ds tail : List Char} (hds : AllDigits ds) (hne : ds ≠ [])
    (hvalue : Nat.ofDigitChars 10 ds 0 = n.natAbs) (htail : Marked tail e)
    (hscale : Width.i64.contains (-e)) :
    read (String.ofList (signOf n ++ (ds ++ tail))) = .ok ⟨n, -e⟩ := by
  have hbase : ∀ c ∈ signOf n ++ ds, c.isDigit ∨ c = '-' ∨ c = '.' := by
    intro c hc
    rcases List.mem_append.mp hc with hc | hc
    · exact .inr (.inl (mem_signOf hc))
    · exact .inl (hds c hc)
  have hread := read_of_parts hbase (by simp [hne]) htail
    (splitPoint_of_no_point (point_not_mem hds)) (by simpa using hscale)
    (readUnscaled_eq hds hne hvalue)
  rw [List.append_assoc] at hread
  simpa using hread

theorem read_point {n e : Int} {lead trail tail : List Char} (hlead : AllDigits lead)
    (htrail : AllDigits trail) (hne : lead ≠ [])
    (hvalue : Nat.ofDigitChars 10 (lead ++ trail) 0 = n.natAbs) (htail : Marked tail e)
    (hscale : Width.i64.contains (trail.length - e)) :
    read (String.ofList (signOf n ++ (lead ++ '.' :: trail ++ tail))) =
      .ok ⟨n, trail.length - e⟩ := by
  have hbase : ∀ c ∈ signOf n ++ lead ++ '.' :: trail, c.isDigit ∨ c = '-' ∨ c = '.' := by
    intro c hc
    rcases List.mem_append.mp hc with hc | hc
    · rcases List.mem_append.mp hc with hc | hc
      · exact .inr (.inl (mem_signOf hc))
      · exact .inl (hlead c hc)
    · rcases List.mem_cons.mp hc with rfl | hc
      · exact .inr (.inr rfl)
      · exact .inl (htrail c hc)
  have hsplit := splitPoint_point (point_not_mem (n := n) hlead) htrail
  rw [List.append_assoc (signOf n) lead trail] at hsplit
  have hread := read_of_parts hbase (by simp) htail hsplit hscale
    (readUnscaled_eq (hlead.append htrail) (by simp [hne]) hvalue)
  simpa using hread

end Reading

section Printing

variable {n scale : Int}

theorem contains_i64 {n : Int} : Width.i64.contains n ↔
    -9223372036854775808 ≤ n ∧ n ≤ 9223372036854775807 := by
  unfold Width.contains
  rw [Bool.and_eq_true, decide_eq_true_eq, decide_eq_true_eq]
  rfl

theorem contains_i128 {n : Int} : Width.i128.contains n ↔
    -170141183460469231731687303715884105728 ≤ n ∧
      n ≤ 170141183460469231731687303715884105727 := by
  unfold Width.contains
  rw [Bool.and_eq_true, decide_eq_true_eq, decide_eq_true_eq]
  rfl

theorem signOf_mul (n : Int) (count : Nat) : signOf (n * 10 ^ count) = signOf n := by
  have hpow : (0 : Int) < 10 ^ count := Int.pow_pos (by decide)
  have hneg : n * 10 ^ count < 0 ↔ n < 0 :=
    ⟨fun h => neg_of_mul_neg_left h hpow.le, fun h => Int.mul_neg_of_neg_of_pos h hpow⟩
  unfold signOf
  simp only [hneg]

theorem value_digitsOf (n : Int) : Nat.ofDigitChars 10 (digitsOf n.natAbs) 0 = n.natAbs :=
  Nat.ofDigitChars_ten_toDigits

theorem marked_signedExponent (mark : Char) (hmark : isExponentMark mark) {e : Int}
    (h : Width.i128.contains e) : Marked (mark :: signedExponent e) e :=
  .exponent hmark (readInteger_signedExponent (by decide) (by decide) h)

theorem contains_i128_neg {e : Int} (h : Width.i64.contains e) : Width.i128.contains (-e) := by
  rw [contains_i64] at h
  rw [contains_i128]
  omega

theorem read_exponential (hscale : Width.i64.contains scale) {ds : List Char}
    (hlong : (ds.length : Int) ≤ scale) (hds : AllDigits ds) (hne : ds ≠ [])
    (hvalue : Nat.ofDigitChars 10 ds 0 = n.natAbs) :
    read (String.ofList (signOf n ++ exponential ds scale)) = .ok ⟨n, scale⟩ := by
  obtain ⟨d, rest, rfl⟩ := List.exists_cons_of_ne_nil hne
  have hexponent : Width.i128.contains (((d :: rest).length : Int) - 1 - scale) := by
    rw [contains_i64] at hscale
    rw [contains_i128]
    simp only [List.length_cons] at hlong ⊢
    omega
  have hmarked := marked_signedExponent 'E' rfl hexponent
  obtain ⟨hd, hrest⟩ := allDigits_cons.mp hds
  unfold exponential
  cases rest with
  | nil =>
    have heq : -(((([d] : List Char).length : Int) - 1 - scale)) = scale := by simp
    have hread := read_whole hds hne hvalue hmarked (by rwa [heq])
    rw [heq] at hread
    simp only [List.cons_append, List.nil_append] at hread ⊢
    rw [signedExponent_eq]
    exact hread
  | cons r rest =>
    have heq : ((r :: rest).length : Int) - (((d :: r :: rest).length : Int) - 1 - scale) =
        scale := by
      simp only [List.length_cons]
      omega
    have hlead : AllDigits [d] := allDigits_cons.mpr ⟨hd, fun _ h => nomatch h⟩
    have hread := read_point hlead hrest (by simp) hvalue hmarked (by rwa [heq])
    rw [heq] at hread
    simp only [List.cons_append, List.nil_append, List.append_assoc] at hread ⊢
    rw [signedExponent_eq]
    exact hread

theorem read_insertPoint (places : Nat) (hplaces : 0 < places)
    (hscale : Width.i64.contains places) {ds : List Char} (hds : AllDigits ds) (hne : ds ≠ [])
    (hvalue : Nat.ofDigitChars 10 ds 0 = n.natAbs) :
    read (String.ofList (signOf n ++ insertPoint ds places)) = .ok ⟨n, places⟩ := by
  unfold insertPoint
  rw [if_neg (by omega)]
  split
  · rename_i hlt
    have htake : AllDigits (ds.take (ds.length - places)) :=
      fun c hc => hds c (List.mem_of_mem_take hc)
    have hdrop : AllDigits (ds.drop (ds.length - places)) :=
      fun c hc => hds c (List.mem_of_mem_drop hc)
    have hlength : (ds.drop (ds.length - places)).length = places := by
      rw [List.length_drop]
      omega
    have hlead : ds.take (ds.length - places) ≠ [] := by
      rw [Ne, List.take_eq_nil_iff]
      rintro (hnone | hnil)
      · omega
      · exact hne hnil
    have hread := read_point htake hdrop hlead (by rwa [List.take_append_drop]) .plain
      (by rwa [hlength, Int.sub_zero])
    rw [hlength, Int.sub_zero, List.append_nil] at hread
    exact hread
  · rename_i hge
    have htrail : AllDigits (List.replicate (places - ds.length) '0' ++ ds) :=
      (allDigits_zeros _).append hds
    have hlength : (List.replicate (places - ds.length) '0' ++ ds).length = places := by
      rw [List.length_append, List.length_replicate]
      omega
    have hzeros : Nat.ofDigitChars 10
        (['0'] ++ (List.replicate (places - ds.length) '0' ++ ds)) 0 = n.natAbs := by
      rw [Nat.ofDigitChars_append, Nat.ofDigitChars_append, Nat.ofDigitChars_replicate_zero]
      exact hvalue
    have hread := read_point (allDigits_zeros 1) htrail (by simp) hzeros .plain
      (by rwa [hlength, Int.sub_zero])
    rw [hlength, Int.sub_zero, List.append_nil] at hread
    exact hread

theorem read_zeros (n : Int) (zeros : Nat) :
    read (String.ofList (signOf n ++ (digitsOf n.natAbs ++ List.replicate zeros '0'))) =
      .ok ⟨n * 10 ^ zeros, 0⟩ := by
  have hds : AllDigits (digitsOf n.natAbs ++ List.replicate zeros '0') :=
    (allDigits_toDigits n.natAbs).append (allDigits_zeros zeros)
  have hne : digitsOf n.natAbs ++ List.replicate zeros '0' ≠ [] :=
    List.append_ne_nil_of_left_ne_nil Nat.toDigits_ne_nil _
  have hvalue : Nat.ofDigitChars 10 (digitsOf n.natAbs ++ List.replicate zeros '0') 0 =
      (n * 10 ^ zeros).natAbs := by
    rw [Nat.ofDigitChars_append, value_digitsOf, Nat.ofDigitChars_replicate_zero, Int.natAbs_mul,
      Int.natAbs_pow, Nat.mul_comm]
    rfl
  have hread := read_whole hds hne hvalue .plain (by decide)
  rw [List.append_nil, signOf_mul] at hread
  exact hread

theorem read_render (d : Decimal) (h : Width.i64.contains d.scale) :
    read d.render = .ok d.asPrinted := by
  obtain ⟨n, scale⟩ := d
  have hds := allDigits_toDigits n.natAbs
  have hne := Nat.toDigits_ne_nil (n := n.natAbs) (b := 10)
  have hvalue := value_digitsOf n
  simp only at h
  unfold render asPrinted
  simp only
  by_cases hzero : n = 0
  · rw [if_pos hzero, if_pos hzero]
    decide
  rw [if_neg hzero, if_neg hzero]
  by_cases hleading : scale - (digitsOf n.natAbs).length > printed.leadingZeros
  · have hpos : ¬ (scale ≤ 0 ∧ -scale ≤ printed.trailingZeros) := by omega
    rw [if_pos hleading, if_neg hpos]
    exact read_exponential h (by omega) hds hne hvalue
  rw [if_neg hleading]
  by_cases htrailing : -scale > printed.trailingZeros
  · have hlong : ¬ (scale ≤ 0 ∧ -scale ≤ printed.trailingZeros) := by omega
    rw [if_pos htrailing, if_neg hlong]
    have hread := read_whole hds hne hvalue
      (marked_signedExponent 'e' rfl (contains_i128_neg h)) (by rwa [Int.neg_neg])
    rwa [Int.neg_neg] at hread
  rw [if_neg htrailing]
  by_cases hwhole : scale ≤ 0
  · rw [if_pos hwhole, if_pos ⟨hwhole, by omega⟩]
    exact read_zeros n scale.natAbs
  · rw [if_neg hwhole, if_neg (fun hboth => hwhole hboth.1)]
    have hplaces : (scale.toNat : Int) = scale := by omega
    have hread := read_insertPoint (n := n) scale.toNat (by omega) (by rwa [hplaces])
      hds hne hvalue
    rwa [hplaces] at hread

end Printing

theorem asPrinted_cases (d : Decimal) :
    (d.unscaled = 0 ∧ d.asPrinted = ⟨0, 0⟩) ∨
      (∃ zeros : Nat, d.unscaled ≠ 0 ∧ d.scale = -zeros ∧ zeros ≤ printed.trailingZeros ∧
        d.asPrinted = ⟨d.unscaled * 10 ^ zeros, 0⟩) ∨ d.asPrinted = d := by
  unfold asPrinted
  split
  · rename_i hzero
    exact .inl ⟨hzero, rfl⟩
  · rename_i hzero
    split
    · rename_i hwhole
      exact .inr (.inl ⟨d.scale.natAbs, hzero, by omega, by omega, rfl⟩)
    · exact .inr (.inr rfl)

theorem value_asPrinted (d : Decimal) : d.asPrinted.value = d.value := by
  unfold value
  rcases d.asPrinted_cases with ⟨hzero, heq⟩ | ⟨zeros, -, hscale, -, heq⟩ | heq
  · rw [heq, hzero]
    simp
  · rw [heq, hscale]
    simp
  · rw [heq]

theorem digitsOf_mul {n : Int} (hn : n ≠ 0) (zeros : Nat) :
    digitsOf (n * 10 ^ zeros).natAbs = digitsOf n.natAbs ++ List.replicate zeros '0' := by
  rw [Int.natAbs_mul, Int.natAbs_pow]
  exact toDigits_mul_pow (by omega) zeros

theorem render_whole {n scale : Int} (hn : n ≠ 0) (hscale : scale ≤ 0)
    (hfew : -scale ≤ printed.trailingZeros) :
    render ⟨n, scale⟩ = String.ofList
      (signOf n ++ (digitsOf n.natAbs ++ List.replicate scale.natAbs '0')) := by
  unfold render
  simp only
  rw [if_neg hn, if_neg (by omega), if_neg (by omega), if_pos hscale]

theorem render_asPrinted (d : Decimal) : d.asPrinted.render = d.render := by
  rcases d.asPrinted_cases with ⟨hzero, heq⟩ | ⟨zeros, hn, hscale, hfew, heq⟩ | heq
  · rw [heq]
    unfold render
    rw [if_pos hzero, if_pos rfl]
  · have hpow : d.unscaled * 10 ^ zeros ≠ 0 := Int.mul_ne_zero hn (by simp)
    have hzeros : d.scale.natAbs = zeros := by omega
    calc
      d.asPrinted.render = render ⟨d.unscaled * 10 ^ zeros, 0⟩ := congrArg render heq
      _ = String.ofList (signOf d.unscaled ++
            (digitsOf d.unscaled.natAbs ++ List.replicate zeros '0')) := by
        rw [render_whole hpow (by decide) (by decide), signOf_mul, digitsOf_mul hn]
        simp
      _ = d.render := by
        rw [← hzeros]
        exact (render_whole hn (by omega) (by omega)).symm
  · rw [heq]

theorem trailingZeros_mul_pow (fuel n zeros : Nat) :
    trailingZeros (fuel + zeros) (n * 10 ^ zeros) = trailingZeros fuel n + zeros := by
  induction zeros with
  | zero => simp
  | succ zeros ih =>
    have hten : n * 10 ^ (zeros + 1) = n * 10 ^ zeros * 10 := by rw [Nat.pow_succ, Nat.mul_assoc]
    rw [hten, ← Nat.add_assoc, trailingZeros, if_pos (Nat.mul_mod_left _ _),
      Nat.mul_div_cancel _ (by decide), ih, Nat.add_assoc]

theorem normalized_asPrinted (d : Decimal) : d.asPrinted.normalized = d.normalized := by
  rcases d.asPrinted_cases with ⟨hzero, heq⟩ | ⟨zeros, hn, hscale, -, heq⟩ | heq
  · rw [heq]
    unfold normalized
    rw [if_pos hzero, if_pos rfl]
  · have hpow : d.unscaled * 10 ^ zeros ≠ 0 := Int.mul_ne_zero hn (by simp)
    rw [heq]
    unfold normalized
    simp only
    rw [if_neg hn, if_neg hpow, digitsOf_mul hn, List.length_append, List.length_replicate,
      Int.natAbs_mul, Int.natAbs_pow, hscale]
    rw [show ((10 : Int).natAbs) = 10 from rfl, trailingZeros_mul_pow]
    congr 1
    · simp only [Nat.pow_eq, Nat.pow_add, Nat.cast_mul]
      push_cast
      exact Int.mul_ediv_mul_of_pos_left _ _ (Int.pow_pos (by decide))
    · omega
  · rw [heq]

end CatalogIntake.Number.Decimal
