import PackQuery.Proofs.Numeral

/-!
# Letters in natural order

What ASCII letters do in the natural order, which goes by the bytes of a text.

**Above digits** (`compareChars_alpha_digit`). A letter at the front is above a digit at the front,
whatever follows.

**Case** (`HasNoLower.compareChars_eq`). Folding turns lower-case letters into upper-case ones, so
texts without lower-case letters compare alike with and without regard to case. All bytes of a
character outside of ASCII are from 128 on, so none of them passes for a letter.
-/

namespace PackQuery.NaturalOrder

/-! ## Bytes of characters -/

/-- A byte stands for an ASCII character or is out of the ASCII range. -/
theorem eq_or_le_of_mem_utf8EncodeChar {c : Char} {b : UInt8}
    (h : b ∈ String.utf8EncodeChar c) : b.toNat = c.toNat ∨ 128 ≤ b.toNat := by
  have hnat : c.toNat = c.val.toNat := rfl
  unfold String.utf8EncodeChar at h
  dsimp only at h
  split_ifs at h <;> simp only [List.mem_cons, List.not_mem_nil, or_false] at h
  · subst h
    left
    rw [hnat, UInt8.toNat_ofNat', Nat.mod_eq_of_lt (by omega)]
  · right
    rcases h with rfl | rfl <;> rw [UInt8.toNat_ofNat'] <;> omega
  · right
    rcases h with rfl | rfl | rfl <;> rw [UInt8.toNat_ofNat'] <;> omega
  · right
    rcases h with rfl | rfl | rfl | rfl <;> rw [UInt8.toNat_ofNat'] <;> omega

/-! ## Letters and digits -/

theorem isUpper_iff {c : Char} : c.isUpper = true ↔ 65 ≤ c.toNat ∧ c.toNat ≤ 90 := by
  show decide (c.val ≥ 'A'.val ∧ c.val ≤ 'Z'.val) = true ↔ _
  rw [decide_eq_true_iff, ge_iff_le, UInt32.le_iff_toNat_le, UInt32.le_iff_toNat_le]
  exact Iff.rfl

theorem isLower_iff {c : Char} : c.isLower = true ↔ 97 ≤ c.toNat ∧ c.toNat ≤ 122 := by
  show (decide (c.val ≥ 'a'.val) && decide (c.val ≤ 'z'.val)) = true ↔ _
  rw [Bool.and_eq_true, decide_eq_true_iff, decide_eq_true_iff, ge_iff_le,
    UInt32.le_iff_toNat_le, UInt32.le_iff_toNat_le]
  exact Iff.rfl

theorem isAlpha_iff {c : Char} :
    c.isAlpha = true ↔
      65 ≤ c.toNat ∧ c.toNat ≤ 90 ∨ 97 ≤ c.toNat ∧ c.toNat ≤ 122 := by
  rw [← isUpper_iff, ← isLower_iff, ← Bool.or_eq_true]
  exact Iff.rfl

theorem toNat_folded_letter (sensitive : Bool) {b : UInt8}
    (h : 65 ≤ b.toNat ∧ b.toNat ≤ 90 ∨ 97 ≤ b.toNat ∧ b.toNat ≤ 122) :
    65 ≤ (folded sensitive b).toNat := by
  cases sensitive with
  | true =>
    show 65 ≤ b.toNat
    omega
  | false =>
    show 65 ≤ (upper b).toNat
    rw [toNat_upper]
    split <;> omega

/-- **A letter is above a digit.** -/
theorem compareChars_alpha_digit (sensitive : Bool) {c d : Char} (hc : c.isAlpha = true)
    (hd : d.isDigit = true) (s t : List Char) :
    compareChars sensitive (c :: s) (d :: t) = .gt := by
  have hletter := isAlpha_iff.mp hc
  have hdigit := isDigit_byte hd
  have hbyte := toNat_byte_of_ascii (c := c) (by omega)
  have hnot : isDigit c.val.toUInt8 = false := by
    rw [← Bool.not_eq_true, isDigit_iff, hbyte]
    omega
  have hfolded := toNat_folded_letter sensitive (b := c.val.toUInt8) (by omega)
  have hgt : Ord.compare (folded sensitive c.val.toUInt8)
      (folded sensitive d.val.toUInt8) = .gt := by
    have hle := (isDigit_iff.mp hdigit).2
    rw [folded_of_isDigit sensitive hdigit, ← compare_toNat, Nat.compare_eq_gt]
    omega
  have hdigits : ¬(isDigit c.val.toUInt8 && isDigit d.val.toUInt8) := by
    rw [hnot]
    exact Bool.false_ne_true
  -- The first bytes are different and not both digits, so they decide.
  rw [compareChars, bytes_cons_of_ascii (by omega), bytes_cons_of_isDigit hd,
    compareBytes_eq_compareLex,
    compareLex_tokens_bytes sensitive _ _ hdigits (by rw [hgt]; exact Ordering.noConfusion), hgt]

/-! ## Case -/

/-- Whether there is no lower-case ASCII letter among the characters. -/
def HasNoLower (s : List Char) : Prop := ∀ c ∈ s, c.isLower = false

instance (s : List Char) : Decidable (HasNoLower s) :=
  decidable_of_iff (s.all (!·.isLower)) (by simp [HasNoLower])

theorem upper_of_not_isLower {c : Char} (h : c.isLower = false) {b : UInt8}
    (hb : b ∈ String.utf8EncodeChar c) : upper b = b := by
  have hnot : ¬(97 ≤ c.toNat ∧ c.toNat ≤ 122) := by
    rw [← isLower_iff, h]
    exact Bool.false_ne_true
  have hbyte := eq_or_le_of_mem_utf8EncodeChar hb
  rw [← UInt8.toNat_inj, toNat_upper, if_neg (by omega)]

theorem tokens_of_upper {bs : List UInt8} (h : ∀ b ∈ bs, upper b = b) (sensitive : Bool) :
    tokens sensitive bs = tokens true bs := by
  fun_induction tokens true bs with
  | case1 => simp [tokens]
  | case2 b bs hb ih =>
    have hrest : ∀ x ∈ bs.dropWhile isDigit, upper x = x :=
      fun x hx => h x (List.mem_cons_of_mem b ((List.dropWhile_sublist _).mem hx))
    rw [tokens_cons_of_isDigit sensitive bs hb, ih hrest]
  | case3 b bs hb ih =>
    obtain ⟨hupper, hrest⟩ := List.forall_mem_cons.mp h
    have hfolded : folded sensitive b = b := by
      cases sensitive with
      | true => rfl
      | false => exact hupper
    rw [tokens_cons_of_not_isDigit sensitive bs (Bool.eq_false_iff.mpr hb), ih hrest, hfolded]
    rfl

theorem HasNoLower.tokens_eq {s : List Char} (h : HasNoLower s) (sensitive : Bool) :
    tokens sensitive (bytes s) = tokens true (bytes s) := by
  apply tokens_of_upper
  intro b hb
  obtain ⟨c, hc, hbc⟩ := List.mem_flatMap.mp hb
  exact upper_of_not_isLower (h c hc) hbc

/-- **Case does not count where there are no lower-case letters.** -/
theorem HasNoLower.compareChars_eq {s t : List Char} (hs : HasNoLower s) (ht : HasNoLower t)
    (sensitive : Bool) : compareChars sensitive s t = compareChars true s t := by
  rw [compareChars, compareChars, compareBytes_eq_compareLex, compareBytes_eq_compareLex,
    hs.tokens_eq, ht.tokens_eq]

end PackQuery.NaturalOrder
