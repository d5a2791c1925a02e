import Mathlib.Data.List.TakeWhile
import PackQuery.Text.Numeral
import PackQuery.Proofs.NaturalOrder
import PackQuery.Proofs.Text.Blank

/-!
# Decimal digits

What decimal digits denote, whether they are read as a numeral, written out or compared in natural
order. The number of some digits is `Nat.ofDigitChars 10`, leading zeros included, and the digits of
a number are `Nat.toDigits 10`.

**Reading** (`natural?_of_isDigit`, `isDigits_of_natural?`). Digits are a numeral for their number,
and nothing else is a numeral.

**Writing** (`toDigits_ofDigitChars`). Digits without leading zeros are those of their number.

**Comparing** (`compareChars_of_isDigit`). Digits are in the natural order of their numbers, with
and without regard to case.
-/

namespace PackQuery

/-- Whether a text consists of decimal digits, of which there is at least one. -/
structure IsDigits (s : List Char) : Prop where
  ne_nil : s ≠ []
  isDigit : ∀ c ∈ s, c.isDigit = true

instance (s : List Char) : Decidable (IsDigits s) :=
  decidable_of_iff (s ≠ [] ∧ s.all Char.isDigit)
    ⟨fun h => ⟨h.1, List.all_eq_true.mp h.2⟩, fun h => ⟨h.ne_nil, List.all_eq_true.mpr h.isDigit⟩⟩

theorem isDigits_toDigits (n : Nat) : IsDigits (Nat.toDigits 10 n) where
  ne_nil := Nat.toDigits_ne_nil
  isDigit _ hc := Nat.isDigit_of_mem_toDigits (by decide) (by decide) hc

theorem IsDigits.not_mem {s : List Char} (hs : IsDigits s) {c : Char} (hc : c.isDigit = false) :
    c ∉ s := by
  intro hmem
  rw [hs.isDigit c hmem] at hc
  cases hc

theorem toList_toString (n : Nat) : (toString n).toList = Nat.toDigits 10 n := by
  rw [Nat.toString_eq_repr, Nat.toList_repr]

theorem toNat_of_isDigit {c : Char} (h : c.isDigit = true) : 48 ≤ c.toNat ∧ c.toNat ≤ 57 :=
  Char.isDigit_iff_toNat.mp h

/-! ## Reading -/

namespace Numeral

theorem digit?_of_isDigit {c : Char} (h : c.isDigit = true) :
    digit? 10 c = some (c.toNat - 48) := by
  have hc := toNat_of_isDigit h
  have hrange : '0' ≤ c ∧ c ≤ '9' := hc
  have hlt : c.toNat - 48 < 10 := by omega
  simp only [digit?, if_pos hrange]
  exact if_pos hlt

theorem foldlM_digit? {s : List Char} (h : ∀ c ∈ s, c.isDigit = true) (n : Nat) :
    s.foldlM (fun n c => (digit? 10 c).map (n * 10 + ·)) n = some (Nat.ofDigitChars 10 s n) := by
  induction s generalizing n with
  | nil => rfl
  | cons c s ih =>
    obtain ⟨hc, hs⟩ := List.forall_mem_cons.mp h
    rw [List.foldlM_cons, digit?_of_isDigit hc, Nat.ofDigitChars_cons, Nat.mul_comm 10 n]
    exact ih hs _

theorem natural?_of_isDigit {s : List Char} (hs : IsDigits s) :
    natural? 10 s = some (Nat.ofDigitChars 10 s 0) := by
  have hne : s.isEmpty = false := by simpa using hs.ne_nil
  rw [natural?, hne]
  exact foldlM_digit? hs.isDigit 0

theorem isDigit_of_digit? {c : Char} {v : Nat} (h : digit? 10 c = some v) : c.isDigit = true := by
  by_contra hc
  have hrange : ¬('0' ≤ c ∧ c ≤ '9') := fun h => hc (Char.isDigit_iff_toNat.mpr h)
  -- Letters have values from ten on.
  simp only [digit?, if_neg hrange] at h
  split_ifs at h <;> omega

theorem isDigit_of_foldlM_digit? {s : List Char} {m n : Nat}
    (h : s.foldlM (fun n c => (digit? 10 c).map (n * 10 + ·)) m = some n) :
    ∀ c ∈ s, c.isDigit = true := by
  induction s generalizing m with
  | nil => exact fun c hc => absurd hc List.not_mem_nil
  | cons c s ih =>
    rw [List.foldlM_cons] at h
    obtain ⟨m', hm, hrest⟩ := Option.bind_eq_some_iff.mp h
    obtain ⟨v, hv, -⟩ := Option.map_eq_some_iff.mp hm
    exact List.forall_mem_cons.mpr ⟨isDigit_of_digit? hv, ih hrest⟩

/-- Nothing else is a numeral. -/
theorem isDigits_of_natural? {s : List Char} {n : Nat} (h : natural? 10 s = some n) :
    IsDigits s := by
  unfold natural? at h
  split at h
  · cases h
  · rename_i hne
    exact ⟨by simpa using hne, isDigit_of_foldlM_digit? h⟩

theorem dropPlus_of_isDigit {s : List Char} (hs : IsDigits s) : dropPlus s = s := by
  unfold dropPlus
  split
  · exact absurd List.mem_cons_self (hs.not_mem (c := '+') (by decide))
  · rfl

theorem decimal64?_of_isDigit {s : List Char} (hs : IsDigits s) :
    decimal64? s = below limit64 (Nat.ofDigitChars 10 s 0) := by
  rw [decimal64?, dropPlus_of_isDigit hs, natural?_of_isDigit hs, Option.bind_some]

theorem isBlank_of_isDigit {c : Char} (h : c.isDigit = true) : Text.isBlank c = false := by
  have hc := toNat_of_isDigit h
  simp only [Text.isBlank, Text.blankRanges, List.any_cons, List.any_nil, Bool.or_false,
    Bool.or_eq_false_iff, Bool.and_eq_false_iff, decide_eq_false_iff_not]
  omega

theorem isDigit_of_isBlank {c : Char} (h : Text.isBlank c = true) : c.isDigit = false := by
  by_contra hdigit
  rw [isBlank_of_isDigit (Bool.not_eq_false _ ▸ hdigit)] at h
  cases h

/-- Trimming leaves digits as they are. -/
theorem trimChars_of_isDigit {s : List Char} (h : ∀ c ∈ s, c.isDigit = true) :
    Text.trimChars s = s :=
  Text.trimChars_eq_self (Text.isTrimmed_of_forall fun c hc => isBlank_of_isDigit (h c hc))

theorem below_eq_some_iff {bound m n : Nat} : below bound m = some n ↔ m < bound ∧ m = n := by
  unfold below
  split <;> simp [*]

end Numeral

/-! ## Writing -/

theorem digitChar_of_isDigit {c : Char} (h : c.isDigit = true) :
    Nat.digitChar (c.toNat - 48) = c := by
  have hc := toNat_of_isDigit h
  rw [← Char.toNat_inj, Nat.toNat_digitChar_of_lt_ten (by omega)]
  omega

theorem toDigits_append {s : List Char} (h : ∀ c ∈ s, c.isDigit = true) {n : Nat} (hn : 0 < n) :
    Nat.toDigits 10 n ++ s = Nat.toDigits 10 (Nat.ofDigitChars 10 s n) := by
  induction s generalizing n with
  | nil => rw [List.append_nil, Nat.ofDigitChars_nil]
  | cons c s ih =>
    obtain ⟨hc, hs⟩ := List.forall_mem_cons.mp h
    have hlt : c.toNat - 48 < 10 := by
      have := toNat_of_isDigit hc
      omega
    have hstep : Nat.toDigits 10 n ++ [c] = Nat.toDigits 10 (10 * n + (c.toNat - 48)) := by
      rw [← Nat.toDigits_append_toDigits (by decide) hn hlt, Nat.toDigits_of_lt_base hlt,
        digitChar_of_isDigit hc]
    show _ = Nat.toDigits 10 (Nat.ofDigitChars 10 s (10 * n + (c.toNat - 48)))
    rw [← ih hs (by omega), ← hstep, List.append_assoc]
    rfl

/-- **Digits without leading zeros are those of their number.** -/
theorem toDigits_ofDigitChars {s : List Char} (hs : IsDigits s)
    (hzero : s.head? = some '0' → s = ['0']) : Nat.toDigits 10 (Nat.ofDigitChars 10 s 0) = s := by
  cases s with
  | nil => exact absurd rfl hs.ne_nil
  | cons c s =>
    obtain ⟨hc, hdigits⟩ := List.forall_mem_cons.mp hs.isDigit
    have hrange := toNat_of_isDigit hc
    by_cases h0 : c = '0'
    · subst h0
      obtain ⟨-, rfl⟩ := List.cons_eq_cons.mp (hzero rfl)
      rfl
    · have hpos : 0 < c.toNat - 48 := by
        have hne : c.toNat ≠ 48 := fun he => h0 (Char.toNat_inj.mp he)
        omega
      have happend := toDigits_append hdigits hpos
      rw [Nat.toDigits_of_lt_base (by omega), digitChar_of_isDigit hc] at happend
      rw [Nat.ofDigitChars_cons, Nat.mul_zero, Nat.zero_add]
      exact happend.symm

/-- Only zero is written with a leading zero. -/
theorem eq_zero_of_head?_toDigits {n : Nat} (h : (Nat.toDigits 10 n).head? = some '0') :
    n = 0 := by
  induction n using Nat.strongRecOn with
  | ind n ih =>
    by_cases hlt : n < 10
    · rw [Nat.toDigits_of_lt_base hlt] at h
      have hdigit := congrArg Char.toNat (Option.some.inj h)
      rw [Nat.toNat_digitChar_of_lt_ten hlt] at hdigit
      have h0 : '0'.toNat = 48 := rfl
      omega
    · obtain ⟨c, rest, hrest⟩ :=
        List.exists_cons_of_ne_nil (Nat.toDigits_ne_nil (n := n / 10) (b := 10))
      rw [Nat.toDigits_of_base_le (by decide) (by omega), hrest] at h
      have hdiv := ih (n / 10) (by omega) (by rw [hrest]; exact h)
      omega

/-! ## Comparing -/

namespace NaturalOrder

theorem bytes_cons_of_isDigit {c : Char} (h : c.isDigit = true) (s : List Char) :
    bytes (c :: s) = c.val.toUInt8 :: bytes s :=
  bytes_cons_of_ascii (Nat.le_trans (toNat_of_isDigit h).2 (by decide)) s

theorem toNat_byte_of_isDigit {c : Char} (h : c.isDigit = true) :
    c.val.toUInt8.toNat = c.toNat :=
  toNat_byte_of_ascii (Nat.le_trans (toNat_of_isDigit h).2 (by decide))

theorem isDigit_byte {c : Char} (h : c.isDigit = true) : isDigit c.val.toUInt8 = true := by
  rw [isDigit_iff, toNat_byte_of_isDigit h]
  exact toNat_of_isDigit h

theorem isDigit_of_mem_bytes {s : List Char} (h : ∀ c ∈ s, c.isDigit = true) :
    ∀ b ∈ bytes s, isDigit b = true := by
  induction s with
  | nil => exact fun b hb => absurd hb List.not_mem_nil
  | cons c s ih =>
    obtain ⟨hc, hs⟩ := List.forall_mem_cons.mp h
    rw [bytes_cons_of_isDigit hc]
    exact List.forall_mem_cons.mpr ⟨isDigit_byte hc, ih hs⟩

theorem runValue_bytes {s : List Char} (h : ∀ c ∈ s, c.isDigit = true) :
    (bytes s).length = s.length ∧ runValue (bytes s) = Nat.ofDigitChars 10 s 0 := by
  induction s with
  | nil => exact ⟨rfl, rfl⟩
  | cons c s ih =>
    obtain ⟨hc, hs⟩ := List.forall_mem_cons.mp h
    obtain ⟨hlen, hvalue⟩ := ih hs
    rw [bytes_cons_of_isDigit hc]
    refine ⟨by rw [List.length_cons, List.length_cons, hlen], ?_⟩
    rw [runValue, hlen, hvalue, toNat_byte_of_isDigit hc, Nat.ofDigitChars_cons, Nat.mul_zero,
      Nat.zero_add, @Nat.ofDigitChars_eq_ofDigitChars_zero s (_ - _), Nat.mul_comm]
    rfl

/-- Digits are one token. -/
theorem tokens_of_isDigit (sensitive : Bool) {s : List Char} (hs : IsDigits s) :
    tokens sensitive (bytes s) = [.number (Nat.ofDigitChars 10 s 0)] := by
  rw [← (runValue_bytes hs.isDigit).2]
  have hbytes := isDigit_of_mem_bytes hs.isDigit
  cases s with
  | nil => exact absurd rfl hs.ne_nil
  | cons c s =>
    rw [bytes_cons_of_isDigit (hs.isDigit c List.mem_cons_self)] at hbytes ⊢
    obtain ⟨hb, hrest⟩ := List.forall_mem_cons.mp hbytes
    rw [tokens_cons_of_isDigit sensitive _ hb, List.takeWhile_eq_self_iff.mpr hrest,
      List.dropWhile_eq_nil_iff.mpr hrest, tokens]

/-- **Digits are in the natural order of their numbers.** -/
theorem compareChars_of_isDigit (sensitive : Bool) {s t : List Char} (hs : IsDigits s)
    (ht : IsDigits t) :
    compareChars sensitive s t =
      Ord.compare (Nat.ofDigitChars 10 s 0) (Nat.ofDigitChars 10 t 0) := by
  rw [compareChars, compareBytes_eq_compareLex, tokens_of_isDigit sensitive hs,
    tokens_of_isDigit sensitive ht, List.compareLex_cons_cons, List.compareLex_nil_nil,
    compare_number, Ordering.then_eq]

theorem compareChars_toDigits (sensitive : Bool) (m n : Nat) :
    compareChars sensitive (Nat.toDigits 10 m) (Nat.toDigits 10 n) = Ord.compare m n := by
  rw [compareChars_of_isDigit sensitive (isDigits_toDigits m) (isDigits_toDigits n),
    Nat.ofDigitChars_ten_toDigits, Nat.ofDigitChars_ten_toDigits]

end NaturalOrder

end PackQuery
