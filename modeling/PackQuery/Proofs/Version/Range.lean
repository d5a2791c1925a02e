import PackQuery.Version.Selection
import PackQuery.Proofs.Version.Parse
import PackQuery.Proofs.Version.ScaledOrder

/-!
# Ranges are intervals of versions

**Monotonicity** (`locate_mono`). The place of a version relative to a range grows with the
version. So what is below a range stays below it for every lower version, what is above stays
above, and each range admits an interval.

The one exception is a range text that is taken as a version: it is inside by its text. With a
colon in it, the same version in another spelling need not be.

**Exclusive maxima** (`locate_exclusive_maximum`). A maximum `X-` keeps out `X`. A release `X-r`
is compared with the empty release, which reads as version `0`: it is kept out exactly if `r`
reads above `0`, or if it is below the minimum. So `X-a` and `X-1` are out, but `X-0` is in.
-/

namespace PackQuery.Version.Range

/-! ## Monotonicity -/

/-- How far a version above the minimum is above the range: above the maximum, or without one
above all compatible versions. -/
def above (compatible : Bool) (fromLow : Int) (version high : String) : Int :=
  if high ≠ "" then max 0 (compare true version high)
  else if compatible ∧ 2 < fromLow then fromLow
  else 0

/-- Where a version lies relative to two bounds. -/
def locateBetween (compatible : Bool) (version low high : String) : Int :=
  let fromLow := if low = "" then 0 else compare true version low
  if low ≠ "" ∧ (fromLow < 0 ∨ low = high) then fromLow
  else above compatible fromLow version high

theorem locate_of_ne {version range : String} (compatible : Bool) (h : version ≠ range) :
    locate compatible version range =
      locateBetween compatible version (lower range) (upper range) :=
  if_neg h

/-- The empty range has no bounds. -/
theorem locate_empty (compatible : Bool) (version : String) :
    locate compatible version "" = 0 := by
  have hlower : lower "" = "" := by decide
  have hupper : upper "" = "" := by decide
  simp [locate, hlower, hupper]

theorem lower_of_not_mem {range : String} (h : ':' ∉ range.toList) : lower range = range := by
  rw [lower, Text.before, Chars.before_of_not_mem h, String.ofList_toList]

theorem upper_of_not_mem {range : String} (h : ':' ∉ range.toList) : upper range = "" := by
  rw [upper, Text.afterLast, Chars.afterLast_of_not_mem h]

/-- A range without a colon is its own lower bound, so that its text needs no exception. -/
theorem locate_of_not_mem_colon {range : String} (compatible : Bool) (version : String)
    (h : ':' ∉ range.toList) :
    locate compatible version range =
      locateBetween compatible version (lower range) (upper range) := by
  by_cases he : version = range
  · subst he
    rw [locate, if_pos rfl, lower_of_not_mem h, upper_of_not_mem h]
    simp [locateBetween, above, (compare_isScaledOrder true).self]
  · exact locate_of_ne compatible he

theorem above_nonneg (compatible : Bool) (fromLow : Int) (version high : String) :
    0 ≤ above compatible fromLow version high := by
  unfold above
  split_ifs with hhigh hfar
  · exact le_max_left _ _
  · omega
  · exact le_rfl

theorem above_mono {v w : String} {fromV fromW : Int} (compatible : Bool) (high : String)
    (h : compare true v w ≤ 0) (hlow : fromV ≤ fromW) :
    above compatible fromV v high ≤ above compatible fromW w high := by
  unfold above
  by_cases hhigh : high = ""
  · rw [if_neg (not_not.mpr hhigh), if_neg (not_not.mpr hhigh)]
    cases compatible with
    | false => simp
    | true =>
      simp only [true_and]
      split <;> split <;> omega
  · rw [if_pos hhigh, if_pos hhigh]
    exact max_le_max_left 0 ((compare_isScaledOrder true).mono h high)

theorem locateBetween_mono {v w : String} (compatible : Bool) (low high : String)
    (h : compare true v w ≤ 0) :
    locateBetween compatible v low high ≤ locateBetween compatible w low high := by
  have hlow := (compare_isScaledOrder true).mono h low
  unfold locateBetween
  by_cases hl : low = ""
  · simp only [hl, if_true, ne_eq, not_true_eq_false, false_and, if_false]
    exact above_mono compatible high h le_rfl
  · simp only [hl, if_false, ne_eq, not_false_eq_true, true_and]
    by_cases heq : low = high
    · rw [if_pos (Or.inr heq), if_pos (Or.inr heq)]
      exact hlow
    · simp only [heq, or_false]
      -- Below the minimum the result is negative, and only there.
      have hw := above_nonneg compatible (compare true w low) w high
      split_ifs
      · exact hlow
      · omega
      · omega
      · exact above_mono compatible high h hlow

/-- **Ranges are monotone in the version.** -/
theorem locate_mono {v w range : String} (compatible : Bool)
    (hrange : ':' ∉ range.toList ∨ v ≠ range ∧ w ≠ range) (h : compare true v w ≤ 0) :
    locate compatible v range ≤ locate compatible w range := by
  rcases hrange with hcolon | ⟨hv, hw⟩
  · rw [locate_of_not_mem_colon compatible v hcolon, locate_of_not_mem_colon compatible w hcolon]
    exact locateBetween_mono compatible _ _ h
  · rw [locate_of_ne compatible hv, locate_of_ne compatible hw]
    exact locateBetween_mono compatible _ _ h

/-- A minor step across a maximum with a trailing dash, and a patch step above a minimum. -/
theorem locate_mono_exclusive :
    (compare true "2.0.0-a" "2.1" ≤ 0 ∧
      locate false "2.0.0-a" "1.0.0:2.0.0-" ≤ locate false "2.1" "1.0.0:2.0.0-") ∧
      compare true "1.2" "1.2.1" ≤ 0 ∧ locate true "1.2" "1.2" ≤ locate true "1.2.1" "1.2" := by
  have h₁ : compare true "2.0.0-a" "2.1" ≤ 0 := by decide +kernel
  have h₂ : compare true "1.2" "1.2.1" ≤ 0 := by decide +kernel
  exact ⟨⟨h₁, locate_mono false (Or.inr (by decide)) h₁⟩, h₂,
    locate_mono true (Or.inl (by decide)) h₂⟩

/-! ## Open ranges -/

/-- **A range without a maximum admits what is not below its bound**, and if it is compatible, what
is no major step above it. -/
theorem locate_open_eq_zero_iff (compatible : Bool) (version : String) {low : String}
    (hcolon : ':' ∉ low.toList) (hne : low ≠ "") :
    locate compatible version low = 0 ↔
      0 ≤ compare true version low ∧ (compatible = true → compare true version low ≤ 2) := by
  rw [locate_of_not_mem_colon compatible version hcolon, lower_of_not_mem hcolon,
    upper_of_not_mem hcolon]
  cases compatible <;> simp [locateBetween, above, hne] <;> omega

/-! ## Closed ranges -/

theorem lower_append {low : String} (h : ':' ∉ low.toList) (high : String) :
    lower (low ++ ":" ++ high) = low :=
  Text.before_append_separator rfl h high

theorem upper_append {high : String} (h : ':' ∉ high.toList) (low : String) :
    upper (low ++ ":" ++ high) = high :=
  Text.afterLast_append_separator rfl h low

theorem locateBetween_eq_zero_iff (compatible : Bool) (version low : String) {high : String}
    (hhigh : high ≠ "") :
    locateBetween compatible version low high = 0 ↔
      (low = "" ∨ 0 ≤ compare true version low) ∧ compare true version high ≤ 0 := by
  have habove : ∀ n, above compatible n version high = max 0 (compare true version high) :=
    fun _ => if_pos hhigh
  unfold locateBetween
  simp only [habove]
  by_cases hl : low = ""
  · simp [hl]
  · simp only [hl, if_false, ne_eq, not_false_eq_true, true_and, false_or]
    split_ifs with hbelow
    · rcases hbelow with hneg | rfl <;> omega
    · obtain ⟨hge, -⟩ := not_or.mp hbelow
      omega

/-- **A range with a maximum admits what lies between its bounds.** -/
theorem locate_eq_zero_iff (compatible : Bool) {version low high : String}
    (hversion : ':' ∉ version.toList) (hlow : ':' ∉ low.toList) (hcolon : ':' ∉ high.toList)
    (hhigh : high ≠ "") :
    locate compatible version (low ++ ":" ++ high) = 0 ↔
      (low = "" ∨ 0 ≤ compare true version low) ∧ compare true version high ≤ 0 := by
  have hne : version ≠ low ++ ":" ++ high := fun he => hversion (by rw [he]; simp)
  rw [locate_of_ne compatible hne, lower_append hlow, upper_append hcolon,
    locateBetween_eq_zero_iff compatible version low hhigh]

/-! ## Exclusive maxima -/

/-- The empty release reads as version `0`. -/
theorem ofChars_nil : ofChars [] = parse "0" := by decide

theorem compareParsed_ofCore (sensitive : Bool) (core : List Char) (r r' : Option (List Char)) :
    compareParsed sensitive (ofCore core r) (ofCore core r') = compareReleases r r' := by
  have hsegments := (compareSegments_isScaledOrder sensitive).self (ofCore core none)
  unfold compareParsed
  rw [compareSegments_ofCore, hsegments]
  rfl

/-- A version is above its empty release. -/
theorem compare_trailing_dash {core : String} (hdash : '-' ∉ core.toList)
    (hplus : '+' ∉ core.toList) (hdigit : core.toList.getLast?.any Char.isDigit) :
    compare true core (core ++ "-") = 1 := by
  rw [compare_eq_compareParsed, parse_trailing_dash hdash hplus,
    parse_of_isDigit hdash hplus hdigit, compareParsed_ofCore, compareReleases_none_some]

/-- A release is to the empty one as the version that it reads as is to `0`. -/
theorem compare_release_trailing_dash {core release : String} (hdash : '-' ∉ core.toList)
    (hplus : '+' ∉ core.toList) (hrelease : '+' ∉ release.toList) :
    compare true (core ++ "-" ++ release) (core ++ "-") = (compare false release "0").sign := by
  rw [compare_eq_compareParsed, parse_trailing_dash hdash hplus,
    parse_append_dash hdash hplus hrelease, compareParsed_ofCore, compareReleases_eq_sign,
    compare_eq_compareParsed, parse_of_not_mem hrelease, ofChars_nil]

/-- **What a maximum with a trailing dash keeps out.** The version of that maximum, and of its
releases exactly those that read above `0` or are below the minimum. -/
theorem locate_exclusive_maximum (compatible : Bool) {core low release : String}
    (hdash : '-' ∉ core.toList) (hplus : '+' ∉ core.toList) (hcolon : ':' ∉ core.toList)
    (hdigit : core.toList.getLast?.any Char.isDigit) (hlow : ':' ∉ low.toList)
    (hrelease : '+' ∉ release.toList) (hrelease' : ':' ∉ release.toList) :
    locate compatible core (low ++ ":" ++ core ++ "-") ≠ 0 ∧
      (locate compatible (core ++ "-" ++ release) (low ++ ":" ++ core ++ "-") ≠ 0 ↔
        0 < compare false release "0" ∨
          low ≠ "" ∧ compare true (core ++ "-" ++ release) low < 0) := by
  have hmax : low ++ ":" ++ core ++ "-" = low ++ ":" ++ (core ++ "-") := String.append_assoc ..
  have hmaxColon : ':' ∉ (core ++ "-").toList := by simp [hcolon]
  have hmaxNe : core ++ "-" ≠ "" := by simp
  have hversion : ':' ∉ (core ++ "-" ++ release).toList := by simp [hcolon, hrelease']
  rw [hmax]
  constructor
  · rw [Ne, locate_eq_zero_iff compatible hcolon hlow hmaxColon hmaxNe,
      compare_trailing_dash hdash hplus hdigit]
    exact fun h => absurd h.2 (by decide)
  · rw [Ne, locate_eq_zero_iff compatible hversion hlow hmaxColon hmaxNe,
      compare_release_trailing_dash hdash hplus hrelease, Int.sign_nonpos_iff, not_and_or,
      not_or, not_le, not_le, or_comm]

/-- The release `a` reads above `0` and is kept out, the release `0` is let in. -/
theorem locate_exclusive_maximum_alpha :
    locate false "2.0.0" ("1.0.0" ++ ":" ++ "2.0.0" ++ "-") ≠ 0 ∧
      locate false ("2.0.0" ++ "-" ++ "a") ("1.0.0" ++ ":" ++ "2.0.0" ++ "-") ≠ 0 ∧
      ¬locate false ("2.0.0" ++ "-" ++ "0") ("1.0.0" ++ ":" ++ "2.0.0" ++ "-") ≠ 0 := by
  have ha := @locate_exclusive_maximum false "2.0.0" "1.0.0" "a" (by decide) (by decide)
    (by decide) (by decide) (by decide) (by decide) (by decide)
  have h0 := @locate_exclusive_maximum false "2.0.0" "1.0.0" "0" (by decide) (by decide)
    (by decide) (by decide) (by decide) (by decide) (by decide)
  exact ⟨ha.1, ha.2.mpr (by decide +kernel), mt h0.2.mp (by decide +kernel)⟩

/-- A release of a maximum with a trailing dash may lie inside the range. -/
theorem locate_trailing_dash_zero :
    locate false "2.0.0-0" "1.0.0:2.0.0-" = 0 ∧ locate true "2.0.0-0" "1.0.0:2.0.0-" = 0 := by
  decide +kernel

end PackQuery.Version.Range
