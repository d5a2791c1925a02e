import PackQuery.Proofs.Letter
import PackQuery.Proofs.Version.Range
import PackQuery.Proofs.Version.Strict

/-!
# Compatible ranges end before the next major version

A compatible range without a maximum refuses what is a major step above its bound. The same can be
written with a maximum: the next major version with a trailing dash.

**The next major version** (`parse_ceiling`). Digits in front of the first dot of a text are also
its major segment (`major_parse`), because neither build metadata nor a release starts before their
end. So the next major version counts on from the number that comparisons see.

**Above the next major version** (`compare_ceiling_pos_iff`). What is above it has a greater major
number than the text. The converse has one doubtful case, where all segments are equal. There the
empty release decides, which reads as version `0`: below no release at all, and below a release that
starts with a letter.

Main result: `locate_compatible_iff`.
-/

namespace PackQuery.Version

/-! ## The major number of a text -/

theorem leadingDigits_of_isDigits {s : List Char} (h : IsDigits s) : leadingDigits s = s :=
  List.takeWhile_eq_self_iff.mpr h.isDigit

/-- The digits in front of the first dot are the major segment. -/
theorem major_parse {s : String} (h : IsDigits (Chars.before '.' s.toList)) :
    (parse s).major = Chars.before '.' s.toList := by
  have hfront : leadingDigits s.toList = Chars.before '.' s.toList := by
    rw [← leadingDigits_before (d := '.') (by decide), leadingDigits_of_isDigits h]
  rcases major_cases s with ⟨-, hnil⟩ | ⟨hstart, hdigits⟩
  · rw [hfront] at hnil
    exact absurd hnil h.ne_nil
  · -- The major segment ends there, and it has all the digits.
    have hall : leadingDigits (parse s).major <+: (parse s).major := List.takeWhile_prefix _
    rw [hdigits, hfront] at hall
    exact hstart.eq_of_length_le hall.length_le

theorem majorNumber_of_isDigits {s : String} (h : IsDigits (Chars.before '.' s.toList))
    (hlt : Nat.ofDigitChars 10 (Chars.before '.' s.toList) 0 < Numeral.limit64) :
    majorNumber s = Nat.ofDigitChars 10 (Chars.before '.' s.toList) 0 := by
  rw [majorNumber, Numeral.trimChars_of_isDigit h.isDigit, Numeral.decimal64?_of_isDigit h,
    Numeral.below_eq_some_iff.mpr ⟨hlt, rfl⟩, Option.getD_some]

/-! ## The next major version -/

/-- The number of the next major version. -/
def nextMajor (s : String) : Nat := min (majorNumber s + 1) (Numeral.limit64 - 1)

theorem nextMajor_of_isDigits {s : String} (h : IsDigits (Chars.before '.' s.toList))
    (hlt : Nat.ofDigitChars 10 (Chars.before '.' s.toList) 0 < Numeral.limit64 - 1) :
    nextMajor s = Nat.ofDigitChars 10 (Chars.before '.' s.toList) 0 + 1 := by
  have hnumber := majorNumber_of_isDigits h (by omega)
  rw [nextMajor, hnumber]
  omega

/-- The next major version is written like a strict one. -/
theorem ceiling_eq (exclusive : Bool) (s : String) :
    ceiling exclusive s =
      StrictVersion.core ⟨nextMajor s, 0, 0, "", ""⟩ ++ if exclusive then "-" else "" := by
  rw [ceiling, ← String.toList_inj]
  simp [StrictVersion.core, nextMajor]

/-- **The next major version** has the next number, zeros, and with a trailing dash the empty
release. -/
theorem parse_ceiling (exclusive : Bool) (s : String) :
    parse (ceiling exclusive s) =
      ⟨Nat.toDigits 10 (nextMajor s), ['0'], ['0'], if exclusive then some [] else none⟩ := by
  rw [ceiling_eq exclusive s]
  generalize nextMajor s = n
  have hdash := StrictVersion.not_mem_core ⟨n, 0, 0, "", ""⟩ (c := '-') (by decide) (by decide)
  have hplus := StrictVersion.not_mem_core ⟨n, 0, 0, "", ""⟩ (c := '+') (by decide) (by decide)
  have hlast := StrictVersion.isDigit_getLast?_core ⟨n, 0, 0, "", ""⟩
  have hzero : Nat.toDigits 10 0 = ['0'] := Nat.toDigits_of_lt_base (by decide)
  cases exclusive with
  | true =>
    rw [if_pos rfl, if_pos rfl, parse_trailing_dash hdash hplus, StrictVersion.ofCore_core,
      hzero]
  | false =>
    rw [if_neg Bool.false_ne_true, if_neg Bool.false_ne_true, String.append_empty,
      parse_of_isDigit hdash hplus hlast, StrictVersion.ofCore_core, hzero]

/-! ## Above the next major version -/

/-- Whether the segments of a version are numbers, and its release, if any, starts with a letter. -/
structure IsNumbered (v : Version) : Prop where
  major : IsDigits v.major
  minor : IsDigits v.minor
  patch : IsDigits v.patch
  release : ∀ r ∈ v.release, r.head?.any Char.isAlpha

instance (v : Version) : Decidable (IsNumbered v) :=
  decidable_of_iff (IsDigits v.major ∧ IsDigits v.minor ∧ IsDigits v.patch ∧
      ∀ r ∈ v.release, r.head?.any Char.isAlpha)
    ⟨fun h => ⟨h.1, h.2.1, h.2.2.1, h.2.2.2⟩, fun h => ⟨h.major, h.minor, h.patch, h.release⟩⟩

/-- Digits are not below zero. -/
theorem compareChars_zero_ne_lt (sensitive : Bool) {s : List Char} (h : IsDigits s) :
    NaturalOrder.compareChars sensitive s ['0'] ≠ .lt := by
  have hzero : IsDigits ['0'] := by decide
  rw [NaturalOrder.compareChars_of_isDigit sensitive h hzero, Ne, Nat.compare_eq_lt]
  exact Nat.not_lt_zero _

/-- A release that starts with a letter is above the empty one. -/
theorem compareReleases_empty {release : Option (List Char)}
    (h : ∀ r ∈ release, r.head?.any Char.isAlpha) : compareReleases release (some []) = 1 := by
  cases release with
  | none => exact compareReleases_none_some []
  | some r =>
    have hr := h r rfl
    cases r with
    | nil => cases hr
    | cons c r =>
      have hc : c.isAlpha = true := hr
      have hne : ∀ d : Char, d.isAlpha = false → c ≠ d := by
        rintro d hd rfl
        rw [hc] at hd
        cases hd
      obtain ⟨rest, hmajor⟩ := exists_major_cons (hne '-' (by decide)) (hne '.' (by decide)) r
      have hgt : NaturalOrder.compareChars false (ofChars (c :: r)).major
          (ofChars []).major = .gt := by
        rw [hmajor]
        exact NaturalOrder.compareChars_alpha_digit false hc (d := '0') rfl rest []
      rw [compareReleases_eq_sign, compareParsed_of_major_ne (by rw [hgt]; decide), hgt]
      rfl

/-- **Above the next major version.** What is above it has a greater major number than the text. -/
theorem compare_ceiling_pos_iff {s v : String} (h : IsDigits (Chars.before '.' s.toList))
    (hlt : Nat.ofDigitChars 10 (Chars.before '.' s.toList) 0 < Numeral.limit64 - 1)
    (hv : IsNumbered (parse v)) :
    0 < compare true v (ceiling true s) ↔
      Nat.ofDigitChars 10 (Chars.before '.' s.toList) 0 <
        Nat.ofDigitChars 10 (parse v).major 0 := by
  rw [compare_eq_compareParsed, parse_ceiling, nextMajor_of_isDigits h hlt]
  generalize Nat.ofDigitChars 10 (Chars.before '.' s.toList) 0 = n
  have hmajor := NaturalOrder.compareChars_of_isDigit true hv.major (isDigits_toDigits (n + 1))
  rw [Nat.ofDigitChars_ten_toDigits] at hmajor
  constructor
  · intro hpos
    by_contra hle
    have hbelow : NaturalOrder.compareChars true (parse v).major
        (Nat.toDigits 10 (n + 1)) = .lt := by
      rw [hmajor, Nat.compare_eq_lt]
      omega
    rw [compareParsed_of_major_ne (by rw [hbelow]; decide), hbelow] at hpos
    exact absurd hpos (by decide)
  · -- No segment is below that of the ceiling, and the release is above the empty one.
    intro hgt
    have hnot : NaturalOrder.compareChars true (parse v).major (Nat.toDigits 10 (n + 1)) ≠ .lt := by
      rw [hmajor, Ne, Nat.compare_eq_lt]
      omega
    rw [compareParsed_eq]
    apply orElse_pos (scaled_nonneg (by decide) hnot)
    apply orElse_pos (scaled_nonneg (by decide) (compareChars_zero_ne_lt true hv.minor))
    apply orElse_pos (scaled_nonneg (by decide) (compareChars_zero_ne_lt true hv.patch))
    rw [if_pos rfl, compareReleases_empty hv.release]
    exact Int.one_pos

theorem two_lt_compare_iff {s v : String} (h : IsDigits (Chars.before '.' s.toList))
    (hv : IsDigits (parse v).major) :
    2 < compare true v s ↔
      Nat.ofDigitChars 10 (Chars.before '.' s.toList) 0 <
        Nat.ofDigitChars 10 (parse v).major 0 := by
  rw [compare_eq_compareParsed, two_lt_compareParsed_iff, major_parse h,
    NaturalOrder.compareChars_of_isDigit true hv h, Nat.compare_eq_gt]

namespace Range

theorem colon_not_mem_ceiling (exclusive : Bool) (s : String) :
    ':' ∉ (ceiling exclusive s).toList := by
  have hdigits : ∀ n, ':' ∉ Nat.toDigits 10 n :=
    fun n => (isDigits_toDigits n).not_mem (by decide)
  rw [ceiling]
  cases exclusive <;> simp [hdigits]

/-- **A compatible range is a range with the next major version as exclusive maximum**, for versions
whose segments are numbers and whose release, if any, starts with a letter. -/
theorem locate_compatible_iff {low v : String} (hlow : ':' ∉ low.toList)
    (hdigits : IsDigits (Chars.before '.' low.toList))
    (hlt : Nat.ofDigitChars 10 (Chars.before '.' low.toList) 0 < Numeral.limit64 - 1)
    (hv : ':' ∉ v.toList) (hnumbered : IsNumbered (parse v)) :
    locate true v low = 0 ↔ locate false v (low ++ ":" ++ ceiling true low) = 0 := by
  have hne : low ≠ "" := by
    rintro rfl
    exact hdigits.ne_nil rfl
  have hceiling : ceiling true low ≠ "" := by
    simp [ceiling]
  rw [locate_open_eq_zero_iff true v hlow hne,
    locate_eq_zero_iff false hv hlow (colon_not_mem_ceiling true low) hceiling]
  have hmajor : compare true v low ≤ 2 ↔ compare true v (ceiling true low) ≤ 0 := by
    rw [← not_lt, ← not_lt, two_lt_compare_iff hdigits hnumbered.major,
      compare_ceiling_pos_iff hdigits hlt hnumbered]
  simp only [hmajor, hne, false_or, forall_const]

/-- A pre-release of the next major version is out, a glued release of a higher minor version is in.
The bound has leading zeros, a release and build metadata. -/
theorem locate_compatible_iff_releases :
    (locate true "2.0.0-rc.1" "001.2-b.3+c" = 0 ↔
        locate false "2.0.0-rc.1" ("001.2-b.3+c" ++ ":" ++ ceiling true "001.2-b.3+c") = 0) ∧
      (locate true "1.10.0b" "001.2-b.3+c" = 0 ↔
        locate false "1.10.0b" ("001.2-b.3+c" ++ ":" ++ ceiling true "001.2-b.3+c") = 0) ∧
      locate true "2.0.0-rc.1" "001.2-b.3+c" ≠ 0 ∧ locate true "1.10.0b" "001.2-b.3+c" = 0 := by
  have hdigits : IsDigits (Chars.before '.' "001.2-b.3+c".toList) := by decide
  have hrc : IsNumbered (parse "2.0.0-rc.1") := by decide +kernel
  have hglued : IsNumbered (parse "1.10.0b") := by decide +kernel
  exact ⟨locate_compatible_iff (by decide) hdigits (by decide) (by decide) hrc,
    locate_compatible_iff (by decide) hdigits (by decide) (by decide) hglued,
    by decide +kernel, by decide +kernel⟩

end Range

end PackQuery.Version
