import CatalogIntake.Text.Utf8

namespace CatalogIntake.Text.Utf8

def octets (cs : List Char) : List UInt8 := cs.flatMap String.utf8EncodeChar

@[simp] theorem octets_nil : octets [] = [] := rfl

@[simp] theorem octets_cons (c : Char) (cs : List Char) :
    octets (c :: cs) = String.utf8EncodeChar c ++ octets cs := rfl

@[simp] theorem octets_append (cs ds : List Char) : octets (cs ++ ds) = octets cs ++ octets ds :=
  List.flatMap_append

/-- The octets of an array are collected one by one, those from `i` on being `left` in number. -/
theorem toList_loop (bytes : ByteArray) (left : Nat) : ∀ (i : Nat) (taken : List UInt8),
    bytes.size - i = left →
      ByteArray.toList.loop bytes i taken = taken.reverse ++ bytes.data.toList.drop i := by
  induction left with
  | zero =>
    intro i taken hleft
    have hend : bytes.data.toList.length ≤ i := Nat.le_of_sub_eq_zero hleft
    rw [ByteArray.toList.loop, if_neg (by omega), List.drop_eq_nil_of_le hend, List.append_nil]
  | succ left ih =>
    intro i taken hleft
    have hmore : i < bytes.data.toList.length := Nat.lt_of_sub_eq_succ hleft
    have hat : bytes.get! i = bytes.data.toList[i] := by
      simp [ByteArray.get!, show i < bytes.size from hmore]
    rw [ByteArray.toList.loop, if_pos (show i < bytes.size from hmore), ih (i + 1) _ (by omega),
      List.reverse_cons, List.append_assoc, hat, List.singleton_append,
      ← List.drop_eq_getElem_cons hmore]

theorem encode_ofList (cs : List Char) : encode (String.ofList cs) = octets cs := by
  unfold encode
  rw [String.toUTF8_eq_toByteArray, String.toByteArray_ofList, List.utf8Encode, ByteArray.toList,
    toList_loop _ _ 0 [] rfl, List.toList_data_toByteArray]
  rfl

theorem encode_eq (s : String) : encode s = octets s.toList := by
  conv => lhs; rw [← String.ofList_toList (s := s)]
  exact encode_ofList s.toList

theorem scalar_toNat (c : Char) :
    c.toNat < 0xd800 ∨ 0xdfff < c.toNat ∧ c.toNat < 0x110000 := c.valid

section Leading

variable {b0 b1 b2 b3 : UInt8} {rest : List UInt8}

theorem leading_one {n0 : Nat} (h0 : b0.toNat = n0) (hone : n0 < 0x80) :
    leading (b0 :: rest) = some (Char.ofNat n0, 0) := by
  unfold leading
  simp only [h0]
  rw [if_pos hone]

theorem isContinuation_add {n : Nat} (h : n < 64) : isContinuation (0x80 + n) = true := by
  unfold isContinuation
  rw [Bool.and_eq_true, decide_eq_true_eq, decide_eq_true_eq]
  omega

theorem leading_two (n0 n1 : Nat) (h0 : b0.toNat = 0xc0 + n0) (h1 : b1.toNat = 0x80 + n1)
    (hn1 : n1 < 64) (hleast : 0x80 ≤ n0 * 64 + n1) (hmost : n0 * 64 + n1 < 0x800) :
    leading (b0 :: b1 :: rest) = some (Char.ofNat (n0 * 64 + n1), 1) := by
  unfold leading
  simp only [h0, h1, isContinuation_add hn1, Nat.add_sub_cancel_left]
  rw [if_neg (by omega), if_pos (by simp; omega)]
  rfl

theorem leading_three (n0 n1 n2 : Nat) (h0 : b0.toNat = 0xe0 + n0) (h1 : b1.toNat = 0x80 + n1)
    (h2 : b2.toNat = 0x80 + n2) (hn1 : n1 < 64) (hn2 : n2 < 64)
    (hleast : 0x800 ≤ n0 * 4096 + n1 * 64 + n2) (hmost : n0 * 4096 + n1 * 64 + n2 < 0x10000)
    (hscalar : n0 * 4096 + n1 * 64 + n2 < 0xd800 ∨ 0xdfff < n0 * 4096 + n1 * 64 + n2) :
    leading (b0 :: b1 :: b2 :: rest) =
      some (Char.ofNat (n0 * 4096 + n1 * 64 + n2), 2) := by
  unfold leading
  simp only [h0, h1, h2, isContinuation_add hn1, isContinuation_add hn2, Nat.add_sub_cancel_left]
  rw [if_neg (by omega), if_neg (by simp; omega), if_pos (by simp; omega), if_pos (by simp; omega)]

theorem leading_four (n0 n1 n2 n3 : Nat) (h0 : b0.toNat = 0xf0 + n0) (h1 : b1.toNat = 0x80 + n1)
    (h2 : b2.toNat = 0x80 + n2) (h3 : b3.toNat = 0x80 + n3)
    (hn1 : n1 < 64) (hn2 : n2 < 64) (hn3 : n3 < 64)
    (hleast : 0x10000 ≤ n0 * 262144 + n1 * 4096 + n2 * 64 + n3)
    (hmost : n0 * 262144 + n1 * 4096 + n2 * 64 + n3 < 0x110000) :
    leading (b0 :: b1 :: b2 :: b3 :: rest) =
      some (Char.ofNat (n0 * 262144 + n1 * 4096 + n2 * 64 + n3), 3) := by
  unfold leading
  simp only [h0, h1, h2, h3, isContinuation_add hn1, isContinuation_add hn2,
    isContinuation_add hn3, Nat.add_sub_cancel_left]
  rw [if_neg (by omega), if_neg (by simp; omega), if_neg (by simp; omega), if_pos (by simp; omega)]

theorem leading_utf8EncodeChar (c : Char) (rest : List UInt8) :
    leading (String.utf8EncodeChar c ++ rest) =
      some (c, (String.utf8EncodeChar c).length - 1) := by
  have hscalar := scalar_toNat c
  have hback {n : Nat} (h : n = c.toNat) : Char.ofNat n = c := by rw [h, Char.ofNat_toNat]
  unfold String.utf8EncodeChar
  simp only [Char.toNat_val]
  split
  · rw [List.cons_append, leading_one (UInt8.toNat_ofNat' ..) (by omega), hback (by omega)]
    rfl
  split
  · rw [List.cons_append, List.cons_append,
      leading_two (c.toNat / 64) (c.toNat % 64) (by rw [UInt8.toNat_ofNat']; omega)
        (by rw [UInt8.toNat_ofNat']; omega) (by omega) (by omega) (by omega),
      hback (by omega)]
    rfl
  split
  · rw [List.cons_append, List.cons_append, List.cons_append,
      leading_three (c.toNat / 4096) (c.toNat / 64 % 64) (c.toNat % 64)
        (by rw [UInt8.toNat_ofNat']; omega) (by rw [UInt8.toNat_ofNat']; omega)
        (by rw [UInt8.toNat_ofNat']; omega) (by omega) (by omega) (by omega) (by omega) (by omega),
      hback (by omega)]
    rfl
  · rw [List.cons_append, List.cons_append, List.cons_append, List.cons_append,
      leading_four (c.toNat / 262144) (c.toNat / 4096 % 64) (c.toNat / 64 % 64) (c.toNat % 64)
        (by rw [UInt8.toNat_ofNat']; omega) (by rw [UInt8.toNat_ofNat']; omega)
        (by rw [UInt8.toNat_ofNat']; omega) (by rw [UInt8.toNat_ofNat']; omega)
        (by omega) (by omega) (by omega) (by omega) (by omega),
      hback (by omega)]
    rfl

end Leading

theorem utf8EncodeChar_of_lt {c : Char} (h : c.toNat < 0x80) :
    String.utf8EncodeChar c = [UInt8.ofNat c.toNat] := by
  unfold String.utf8EncodeChar
  exact if_pos (Nat.le_of_lt_succ h)

/-- Every octet of a character beyond ASCII has its highest bit set. -/
theorem octet_ge {c : Char} (h : 0x80 ≤ c.toNat) :
    ∀ b ∈ String.utf8EncodeChar c, 0x80 ≤ b.toNat := by
  have hscalar := scalar_toNat c
  intro b hb
  unfold String.utf8EncodeChar at hb
  simp only [Char.toNat_val] at hb
  rw [if_neg (by omega)] at hb
  split at hb
  · simp only [List.mem_cons, List.not_mem_nil, or_false] at hb
    rcases hb with rfl | rfl <;> rw [UInt8.toNat_ofNat'] <;> omega
  split at hb
  · simp only [List.mem_cons, List.not_mem_nil, or_false] at hb
    rcases hb with rfl | rfl | rfl <;> rw [UInt8.toNat_ofNat'] <;> omega
  · simp only [List.mem_cons, List.not_mem_nil, or_false] at hb
    rcases hb with rfl | rfl | rfl | rfl <;> rw [UInt8.toNat_ofNat'] <;> omega

theorem octet_of_lt {c : Char} {b : UInt8} (hb : b ∈ String.utf8EncodeChar c)
    (hlt : b.toNat < 0x80) : c.toNat = b.toNat := by
  rcases Nat.lt_or_ge c.toNat 0x80 with h | h
  · rw [utf8EncodeChar_of_lt h, List.mem_singleton] at hb
    rw [hb, UInt8.toNat_ofNat']
    omega
  · exact absurd (octet_ge h b hb) (by omega)

theorem head?_octets {cs : List Char} {b : UInt8} (h : (octets cs).head? = some b) :
    ∃ c, cs.head? = some c ∧ b ∈ String.utf8EncodeChar c := by
  cases cs with
  | nil => cases h
  | cons c rest =>
    obtain ⟨first, more, hc⟩ := List.exists_cons_of_ne_nil (String.utf8EncodeChar_ne_nil (c := c))
    rw [octets_cons, hc] at h
    cases h
    exact ⟨c, rfl, by rw [hc]; exact List.mem_cons_self⟩

theorem getLast?_octets {cs : List Char} {b : UInt8} (h : (octets cs).getLast? = some b) :
    ∃ c, cs.getLast? = some c ∧ b ∈ String.utf8EncodeChar c := by
  rcases List.eq_nil_or_concat cs with rfl | ⟨before, c, rfl⟩
  · cases h
  · have hne : String.utf8EncodeChar c ≠ [] := String.utf8EncodeChar_ne_nil
    rw [List.concat_eq_append] at h ⊢
    rw [octets_append, octets_cons, octets_nil, List.append_nil, List.getLast?_append,
      List.getLast?_eq_some_getLast hne, Option.some_or] at h
    cases h
    exact ⟨c, List.getLast?_concat, List.getLast_mem hne⟩

theorem decodeFrom_skip (index skip : Nat) {taken : List UInt8} (h : taken.length = skip)
    (rest : List UInt8) :
    decodeFrom index skip (taken ++ rest) = decodeFrom (index + skip) 0 rest := by
  induction taken generalizing index skip with
  | nil =>
    subst h
    rfl
  | cons b taken ih =>
    subst h
    rw [List.cons_append, List.length_cons, decodeFrom, ih (index + 1) taken.length rfl]
    congr 1
    omega

theorem decodeFrom_octets (index : Nat) (cs : List Char) :
    decodeFrom index 0 (octets cs) = .ok cs := by
  induction cs generalizing index with
  | nil => rfl
  | cons c cs ih =>
    have hleading := leading_utf8EncodeChar c (octets cs)
    rw [octets_cons]
    obtain ⟨b, more, hc⟩ := List.exists_cons_of_ne_nil (String.utf8EncodeChar_ne_nil (c := c))
    rw [hc] at hleading ⊢
    rw [List.cons_append] at hleading ⊢
    rw [decodeFrom, hleading]
    simp only
    rw [decodeFrom_skip _ _ (by simp), ih]
    rfl

theorem decode_encode (s : String) : decode (encode s) = .ok s := by
  unfold decode
  rw [encode_eq, decodeFrom_octets]
  exact congrArg Except.ok String.ofList_toList

theorem nul_mem_of_encode {s : String} (h : 0 ∈ encode s) : '\x00' ∈ s.toList := by
  rw [encode_eq, octets] at h
  obtain ⟨c, hc, hzero⟩ := List.mem_flatMap.mp h
  have hvalue := octet_of_lt hzero (by decide)
  rwa [show c = '\x00' from Char.toNat_inj.mp hvalue] at hc

theorem eq_zero_of_ofNat {n : Nat} (scalar : n.isValidChar) (nul : Char.ofNat n = '\x00') :
    n = 0 := by
  have hn : (Char.ofNat n).toNat = n := by
    unfold Char.ofNat
    rw [dif_pos scalar]
    rfl
  rw [← hn, nul]
  rfl

theorem eq_zero_of_leading {b : UInt8} {rest : List UInt8} {more : Nat}
    (h : leading (b :: rest) = some ('\x00', more)) : b = 0 := by
  unfold leading at h
  simp only [isContinuation, Bool.and_eq_true, Bool.or_eq_true, decide_eq_true_eq, bne_iff_ne] at h
  split at h
  · have hb := eq_zero_of_ofNat (.inl (by omega)) (Prod.mk.inj (Option.some.inj h)).1
    exact UInt8.toNat_inj.mp hb
  · -- a longer form stands for a scalar value from 128 on
    have large {n : Nat} (scalar : n.isValidChar) (positive : 0 < n)
        (nul : Char.ofNat n = '\x00') : b = 0 :=
      absurd (eq_zero_of_ofNat scalar nul) (Nat.ne_of_gt positive)
    unfold Nat.isValidChar at large
    repeat' split at h
    all_goals first
      | exact absurd h.symm (Option.some_ne_none _)
      | refine large ?_ ?_ (Prod.mk.inj (Option.some.inj h)).1 <;> omega

theorem zero_mem_of_decodeFrom {index skip : Nat} {bytes : List UInt8} {cs : List Char}
    (h : decodeFrom index skip bytes = .ok cs) (nul : '\x00' ∈ cs) : 0 ∈ bytes := by
  induction bytes generalizing index skip cs with
  | nil =>
    cases h
    cases nul
  | cons b rest ih =>
    unfold decodeFrom at h
    cases skip with
    | succ skip => exact List.mem_cons_of_mem _ (ih h nul)
    | zero =>
      simp only at h
      split at h
      · cases h
      · rename_i c more hleading
        cases hrest : decodeFrom (index + 1) more rest with
        | error place =>
          rw [hrest] at h
          cases h
        | ok later =>
          rw [hrest] at h
          obtain rfl := Except.ok.inj h
          rcases List.mem_cons.mp nul with rfl | nul
          · rw [eq_zero_of_leading hleading]
            exact List.mem_cons_self
          · exact List.mem_cons_of_mem _ (ih hrest nul)

theorem zero_mem_of_decode {bytes : List UInt8} {s : String}
    (h : (decode bytes).toOption = some s) (nul : '\x00' ∈ s.toList) : 0 ∈ bytes := by
  unfold decode at h
  cases hfrom : decodeFrom 0 0 bytes with
  | error place =>
    rw [hfrom] at h
    cases h
  | ok cs =>
    rw [hfrom] at h
    obtain rfl := Option.some.inj h
    rw [String.toList_ofList] at nul
    exact zero_mem_of_decodeFrom hfrom nul

theorem decodeLossyFrom_of_decodeFrom {index skip : Nat} {bytes : List UInt8} {cs : List Char}
    (h : decodeFrom index skip bytes = .ok cs) : decodeLossyFrom skip bytes = cs := by
  induction bytes generalizing index skip cs with
  | nil => exact Except.ok.inj h
  | cons b rest ih =>
    unfold decodeFrom at h
    unfold decodeLossyFrom
    cases skip with
    | succ skip => exact ih h
    | zero =>
      simp only at h ⊢
      split at h
      · cases h
      · rename_i c more hleading
        rw [hleading]
        cases hrest : decodeFrom (index + 1) more rest with
        | error place =>
          rw [hrest] at h
          cases h
        | ok later =>
          rw [hrest] at h
          obtain rfl := Except.ok.inj h
          exact congrArg (c :: ·) (ih hrest)

theorem decodeLossy_encode (s : String) : decodeLossy (encode s) = s := by
  unfold decodeLossy
  rw [encode_eq, decodeLossyFrom_of_decodeFrom (decodeFrom_octets 0 s.toList), String.ofList_toList]

example :
    decodeLossy [0x61, 0xe2, 0x82, 0xff, 0xf0, 0x9f, 0x98, 0x62] = "a\uFFFD\uFFFD\uFFFDb" := by
  decide

end CatalogIntake.Text.Utf8
