import PackQuery.Proofs.Version.Compatible

/-!
# Versions and their next major version

The next major version counts on from the number in front of the first dot of a text. Comparisons
count from the major segment, which is what is left there without metadata and release.

**Digits at the front** (`major_eq_leadingDigits`). Neither metadata nor a release starts
between the digits at the front of a text. So a major segment of digits is the digits at the front,
unless it is the zero of a missing segment.

**The number in front of the first dot** (`majorNumber_eq`). Only blank characters may stand between
the digits at the front and the dot; with anything else there is no number, which counts as zero.

**Below the next major version** (`compare_ceiling_iff`). Hence a version is a major step below its
next major version, unless its release or its metadata starts in front of the first dot. Then the
next major version is that of zero, as for `2-rc.1`.
-/

namespace PackQuery.Version

/-! ## Digits at the front -/

/-- **A major segment of digits is the digits at the front**, or the zero of a missing segment. -/
theorem major_eq_leadingDigits {s : String} (h : IsDigits (parse s).major) :
    (parse s).major = ['0'] ∧ leadingDigits s.toList = [] ∨
      (parse s).major = leadingDigits s.toList :=
  (major_cases s).imp_right fun hmajor => by
    rw [← hmajor.2, leadingDigits_of_isDigits h]

/-! ## The number in front of the first dot -/

/-- Trimming does not reach the digits at the front. -/
theorem leadingDigits_trimChars {s : List Char} (h : leadingDigits s ≠ []) :
    leadingDigits (Text.trimChars s) = leadingDigits s := by
  obtain ⟨w, w', hw, hw', hs⟩ := Text.exists_trimChars s
  have hfront : w = [] := by
    cases w with
    | nil => rfl
    | cons c w =>
      have hc : c.isDigit = false := Numeral.isDigit_of_isBlank (hw c List.mem_cons_self)
      refine absurd ?_ h
      rw [hs]
      exact List.takeWhile_cons_of_neg (by simp [hc])
  have hback : ∀ c ∈ w'.head?, c.isDigit = false := fun c hc =>
    Numeral.isDigit_of_isBlank (hw' c (List.mem_of_mem_head? hc))
  conv_rhs => rw [hs, hfront, List.nil_append]
  exact (leadingDigits_append _ hback).symm

/-- A text with digits at the front is a decimal numeral only if there is nothing else. -/
theorem decimal64?_of_leadingDigits {s : List Char} (h : leadingDigits s ≠ []) :
    Numeral.decimal64? s =
      if s = leadingDigits s then Numeral.below Numeral.limit64 (Nat.ofDigitChars 10 s 0)
      else none := by
  split
  · rename_i heq
    refine Numeral.decimal64?_of_isDigit ⟨fun hnil => h (by rw [← heq, hnil]), fun c hc => ?_⟩
    rw [heq] at hc
    exact List.all_eq_true.mp List.all_takeWhile c hc
  · rename_i hne
    have hplus : Numeral.dropPlus s = s := by
      cases s with
      | nil => rfl
      | cons c s =>
        unfold Numeral.dropPlus
        split
        · rename_i heq
          cases heq
          exact absurd (List.takeWhile_cons_of_neg (by decide)) h
        · rfl
    rw [Numeral.decimal64?, hplus, Option.bind_eq_none_iff]
    intro n hn
    exact absurd (leadingDigits_of_isDigits (Numeral.isDigits_of_natural? hn)).symm hne

/-- **The number in front of the first dot** is that of the leading digits, if nothing but blank
characters follows them there, and zero otherwise. -/
theorem majorNumber_eq {s : String} (h : leadingDigits s.toList ≠ [])
    (hlt : Nat.ofDigitChars 10 (leadingDigits s.toList) 0 < Numeral.limit64) :
    majorNumber s =
      if Text.trimChars (Chars.before '.' s.toList) = leadingDigits s.toList then
        Nat.ofDigitChars 10 (leadingDigits s.toList) 0
      else 0 := by
  have hbefore := leadingDigits_before (d := '.') (by decide) s.toList
  have htrim := leadingDigits_trimChars (hbefore ▸ h)
  rw [hbefore] at htrim
  rw [majorNumber, decimal64?_of_leadingDigits (htrim ▸ h), htrim]
  split
  · rename_i heq
    rw [heq, Numeral.below_eq_some_iff.mpr ⟨hlt, rfl⟩, Option.getD_some]
  · rfl

/-! ## Below the next major version -/

/-- The rank `-3` tells which major segment is lower. -/
theorem compareParsed_eq_neg_three_iff (sensitive : Bool) (v w : Version) :
    compareParsed sensitive v w = -3 ↔
      NaturalOrder.compareChars sensitive v.major w.major = .lt := by
  have hswap := (compareParsed_isScaledOrder sensitive).swap v w
  have hscale := ((compareParsed_isScaledOrder sensitive).inScale v w).neg_le
  rw [← Std.OrientedCmp.gt_iff_lt, ← two_lt_compareParsed_iff, hswap]
  omega

/-- A version is a major step below its next major version if its number is read from the text. -/
theorem compare_ceiling_eq_iff (exclusive : Bool) {v : String} (h : IsDigits (parse v).major)
    (hlt : Nat.ofDigitChars 10 (parse v).major 0 < Numeral.limit64 - 1) :
    compare true v (ceiling exclusive v) = -3 ↔
      Nat.ofDigitChars 10 (parse v).major 0 ≤ majorNumber v := by
  rw [compare_eq_compareParsed, compareParsed_eq_neg_three_iff, parse_ceiling,
    NaturalOrder.compareChars_of_isDigit true h (isDigits_toDigits _),
    Nat.ofDigitChars_ten_toDigits, Nat.compare_eq_lt, nextMajor]
  omega

/-- **A version is a major step below its next major version** if its major number is zero, or if
nothing but blank characters stands around its major number in front of the first dot. Otherwise the
next major version is the first one. -/
theorem compare_ceiling_iff (exclusive : Bool) {v : String} (h : IsDigits (parse v).major)
    (hlt : Nat.ofDigitChars 10 (parse v).major 0 < Numeral.limit64 - 1) :
    (compare true v (ceiling exclusive v) = -3 ↔
        Nat.ofDigitChars 10 (parse v).major 0 = 0 ∨
          Text.trimChars (Chars.before '.' v.toList) = (parse v).major) ∧
      (compare true v (ceiling exclusive v) ≠ -3 →
        ceiling exclusive v = "1.0.0" ++ if exclusive then "-" else "") := by
  rw [Ne, compare_ceiling_eq_iff exclusive h hlt]
  rcases major_eq_leadingDigits h with ⟨hzero, -⟩ | hmajor
  · have hvalue : Nat.ofDigitChars 10 (parse v).major 0 = 0 := by rw [hzero]; rfl
    rw [hvalue]
    exact ⟨iff_of_true (Nat.zero_le _) (Or.inl rfl), fun hnot => absurd (Nat.zero_le _) hnot⟩
  · have hnumber := majorNumber_eq (hmajor ▸ h.ne_nil) (by rw [← hmajor]; omega)
    rw [← hmajor] at hnumber
    by_cases htext : Text.trimChars (Chars.before '.' v.toList) = (parse v).major
    · rw [if_pos htext] at hnumber
      rw [hnumber]
      exact ⟨iff_of_true le_rfl (Or.inr htext), fun hnot => absurd le_rfl hnot⟩
    · rw [if_neg htext] at hnumber
      rw [hnumber, Nat.le_zero]
      refine ⟨(or_iff_left htext).symm, fun _ => ?_⟩
      rw [ceiling, hnumber]
      cases exclusive <;> rfl

/-- A blank behind the major number does not count, a release in front of the first dot does. -/
theorem compare_ceiling_iff_blank :
    (IsDigits (parse "12 ").major ∧
        Nat.ofDigitChars 10 (parse "12 ").major 0 < Numeral.limit64 - 1) ∧
      (IsDigits (parse "2-rc.1").major ∧
        Nat.ofDigitChars 10 (parse "2-rc.1").major 0 < Numeral.limit64 - 1) ∧
      compare true "12 " (ceiling true "12 ") = -3 ∧
      compare true "2-rc.1" (ceiling true "2-rc.1") ≠ -3 ∧ ceiling true "2-rc.1" = "1.0.0-" := by
  have hblank : IsDigits (parse "12 ").major ∧
      Nat.ofDigitChars 10 (parse "12 ").major 0 < Numeral.limit64 - 1 := by decide +kernel
  have hrelease : IsDigits (parse "2-rc.1").major ∧
      Nat.ofDigitChars 10 (parse "2-rc.1").major 0 < Numeral.limit64 - 1 := by decide +kernel
  have hne : compare true "2-rc.1" (ceiling true "2-rc.1") ≠ -3 := by
    rw [Ne, (compare_ceiling_iff true hrelease.1 hrelease.2).1]
    decide +kernel
  exact ⟨hblank, hrelease,
    (compare_ceiling_iff true hblank.1 hblank.2).1.mpr (Or.inr (by decide +kernel)), hne,
    (compare_ceiling_iff true hrelease.1 hrelease.2).2 hne⟩

/-- The next major version of a release of version 2 is below it. -/
theorem compare_ceiling_release :
    IsDigits (parse "2-rc.1").major ∧ Nat.ofDigitChars 10 (parse "2-rc.1").major 0 = 2 ∧
      compare true "2-rc.1" (ceiling false "2-rc.1") = 3 ∧
      compare true "2-rc.1" (ceiling true "2-rc.1") = 3 := by
  decide +kernel

end PackQuery.Version
