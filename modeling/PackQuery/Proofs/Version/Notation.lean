import Mathlib.Data.Option.Basic
import PackQuery.Proofs.Letter
import PackQuery.Proofs.Version.Range
import PackQuery.Proofs.Version.Selection
import PackQuery.Proofs.Version.Selector

/-!
# Filters that select alike

The same wish can be written in several ways.

**Lower bounds** (`select_bound`). The selector `@>=X` and the range `X` both ask for the highest
version from `X` on. A selector takes the last of the highest candidates, by the upper-case forms of
letters. A range takes the first one and tells lower case from upper case. Without lower-case
letters both go by one order (`compare_of_hasNoLower`), and two candidates that are highest in it
are equal.

**Names** (`select_name_iff`). A name may stand in front of a selector. The mode is read behind the
last `@` and the baseline behind the first one, so a name without `@` does not count. What follows
an `@` in a name becomes a part of the baseline, and the selections are the same exactly if that
baseline is equal to the one without the name (`select_eq_iff`).
-/

namespace PackQuery.Version

open NaturalOrder (HasNoLower)

/-! ## Case -/

theorem compareSegments_of_hasNoLower {a b : String} (ha : HasNoLower a.toList)
    (hb : HasNoLower b.toList) (sensitive : Bool) :
    compareSegments sensitive (parse a) (parse b) = compareSegments true (parse a) (parse b) := by
  obtain ⟨hmajor, hminor, hpatch⟩ := forall_mem_parse (by decide) ha
  obtain ⟨hmajor', hminor', hpatch'⟩ := forall_mem_parse (by decide) hb
  rw [compareSegments, compareSegments, HasNoLower.compareChars_eq hmajor hmajor',
    HasNoLower.compareChars_eq hminor hminor', HasNoLower.compareChars_eq hpatch hpatch']

/-- **Case does not count in versions without lower-case letters.** -/
theorem compare_of_hasNoLower {a b : String} (ha : HasNoLower a.toList)
    (hb : HasNoLower b.toList) (sensitive : Bool) :
    compare sensitive a b = compare true a b := by
  rw [compare_eq_compareParsed, compare_eq_compareParsed, compareParsed, compareParsed,
    compareSegments_of_hasNoLower ha hb]

/-! ## Modes and baselines -/

/-- The mode of a filter is that of the text behind its last `@`. -/
theorem MatchMode.ofFilter_append {selector : String} (h : '@' ∉ selector.toList) (name : String) :
    ofFilter (name ++ "@" ++ selector) = ofFilter ("@" ++ selector) := by
  have hempty : "@" ++ selector = "" ++ "@" ++ selector := by rw [String.empty_append]
  rw [hempty, ofFilter, ofFilter, Text.afterLast_append_separator rfl h,
    Text.afterLast_append_separator rfl h]

/-- A lower bound is a selector behind an empty name. -/
theorem bound_eq (x : String) : "@>=" ++ x = "" ++ "@" ++ (">=" ++ x) := by
  rw [← String.toList_inj]
  simp

/-- A text that starts with `>=` and a digit asks for a lower bound. -/
theorem MatchMode.ofFilter_bound {x : String} (hdigit : x.toList.head?.any Char.isDigit)
    (hat : '@' ∉ x.toList) : ofFilter ("@>=" ++ x) = higherOrEqual := by
  have hselector : '@' ∉ (">=" ++ x).toList := by
    simp [hat]
  rw [bound_eq, ofFilter, Text.afterLast_append_separator rfl hselector]
  cases hx : x.toList with
  | nil =>
    rw [hx] at hdigit
    cases hdigit
  | cons d rest =>
    rw [hx] at hdigit
    have hd : d.isDigit = true := hdigit
    simp [hx, hd]

namespace Selection

/-- What a selector text compares with in a mode: in a lower bound, what follows the first `>=`. -/
def operand (mode : MatchMode) (selector : String) : String :=
  if mode = .higherOrEqual then Text.afterFirst ">=" selector else selector

theorem baseline_eq_operand (filter : String) :
    baseline filter = operand (MatchMode.ofFilter filter) (Text.afterFirst "@" filter) := rfl

/-- The baseline of a filter is read behind its first `@`. -/
theorem baseline_append {name : String} (h : '@' ∉ name.toList) (selector : String) :
    baseline (name ++ "@" ++ selector) =
      operand (MatchMode.ofFilter (name ++ "@" ++ selector)) selector := by
  rw [baseline_eq_operand, Text.afterFirst_append_separator rfl h]

/-! ## Lower bounds -/

theorem baseline_bound {x : String} (hdigit : x.toList.head?.any Char.isDigit)
    (hat : '@' ∉ x.toList) : baseline ("@>=" ++ x) = x := by
  have hmode := MatchMode.ofFilter_bound hdigit hat
  rw [bound_eq] at hmode ⊢
  rw [baseline_append (by simp), hmode]
  exact Text.afterFirst_append ">=" x

/-- Two candidates that are highest, one from a baseline on and one in a range, are equal. -/
theorem compare_eq_zero_of_isHighest {x : String} {candidates : List String} {m r : String}
    (hinside : Range.locate false m x = 0) (hm : m ∈ candidates) (hr : r ∈ candidates)
    (hcase : compare false m r = compare true m r)
    (hmax : IsHighestFrom x candidates m) (hmax' : IsHighest false x candidates r) :
    compare false m r = 0 := by
  have hrm := hmax.2 r hr
  have hmr := hmax'.2 m hm hinside
  have hswap := (compare_isScaledOrder false).swap m r
  omega

/-- **A lower bound and a range without a maximum select equal versions**, where no letter is a
lower-case one. -/
theorem select_bound {x : String} {candidates : List String}
    (hdigit : x.toList.head?.any Char.isDigit) (hat : '@' ∉ x.toList) (hcolon : ':' ∉ x.toList)
    (hx : HasNoLower x.toList) (hcandidates : ∀ s ∈ candidates, HasNoLower s.toList) :
    Option.Rel (fun m r => compare false m r = 0) (select false ("@>=" ++ x) candidates)
      (select false x candidates) := by
  have hne : x ≠ "" := by
    rintro rfl
    cases hdigit
  have hmode : MatchMode.ofFilter ("@>=" ++ x) ≠ .fixed := by
    rw [MatchMode.ofFilter_bound hdigit hat]
    decide
  -- Both notations admit the same candidates.
  have hadmits : ∀ c ∈ candidates, Range.locate false c x = 0 ↔ 0 ≤ compare false c x := by
    intro c hc
    rw [Range.locate_open_eq_zero_iff false c hcolon hne,
      compare_of_hasNoLower (hcandidates c hc) hx false]
    simp
  rw [select_of_ne_fixed false candidates (by simp) hmode, baseline_bound hdigit hat,
    select_of_not_mem false candidates hat]
  cases hm : highestFrom x none candidates with
  | none =>
    have hnone : highestInRange false x candidates = none := by
      rw [highestInRange_eq_none_iff]
      intro c hc
      have hlt := (highestFrom_eq_none_iff x candidates).mp hm c hc
      rw [Ne, hadmits c hc]
      omega
    rw [hnone]
    exact .none
  | some m =>
    obtain ⟨hmem, hmax⟩ := isHighestFrom_of_highestFrom hm
    have hinside := (hadmits m hmem).mpr hmax.1
    cases hr : highestInRange false x candidates with
    | none => exact absurd hinside ((highestInRange_eq_none_iff false x candidates).mp hr m hmem)
    | some r =>
      obtain ⟨hmem', hmax'⟩ := isHighest_of_highestInRange hr
      have hcase := compare_of_hasNoLower (hcandidates m hmem) (hcandidates r hmem') false
      exact .some (compare_eq_zero_of_isHighest hinside hmem hmem' hcase hmax hmax')

/-- The last of two spellings of the highest version, and the first one. -/
theorem select_bound_spellings :
    Option.Rel (fun m r => compare false m r = 0)
        (select false ("@>=" ++ "1.0-B") ["1.0-A", "2.1", "1.5", "2.01+C"])
        (select false "1.0-B" ["1.0-A", "2.1", "1.5", "2.01+C"]) ∧
      select false ("@>=" ++ "1.0-B") ["1.0-A", "2.1", "1.5", "2.01+C"] = some "2.01+C" ∧
      select false "1.0-B" ["1.0-A", "2.1", "1.5", "2.01+C"] = some "2.1" :=
  ⟨select_bound (by decide) (by decide) (by decide) (by decide) (by decide), by decide +kernel,
    by decide +kernel⟩

/-! ## Names in front of a selector -/

theorem highestFrom_congr {b b' : String} (h : compare false b b' = 0) (best : Option String)
    (candidates : List String) :
    highestFrom b best candidates = highestFrom b' best candidates := by
  induction candidates with
  | nil => rfl
  | cons c rest ih =>
    rw [highestFrom, highestFrom, (compare_isScaledOrder false).congr_right h c, ih]

theorem highestFrom_singleton_eq_some_iff (b c : String) :
    highestFrom b none [c] = some c ↔ 0 ≤ compare false c b := by
  rw [highestFrom]
  split <;> simp [highestFrom, *]

/-- **Filters of one mode select alike if and only if their baselines are equal.** -/
theorem select_eq_iff (compatible : Bool) {filter filter' : String} (h : '@' ∈ filter.toList)
    (h' : '@' ∈ filter'.toList) (hmode : MatchMode.ofFilter filter = MatchMode.ofFilter filter') :
    (∀ candidates, select compatible filter candidates = select compatible filter' candidates) ↔
      compare false (baseline filter) (baseline filter') = 0 := by
  have horder := compare_isScaledOrder false
  have hself := horder.self (baseline filter)
  have hself' := horder.self (baseline filter')
  have hswap := horder.swap (baseline filter) (baseline filter')
  by_cases hfixed : MatchMode.ofFilter filter = .fixed
  · simp only [select_of_fixed compatible _ h hfixed,
      select_of_fixed compatible _ h' (hmode ▸ hfixed)]
    constructor
    · -- The first baseline is itself a candidate that is selected.
      intro hall
      have hsingle := hall [baseline filter]
      simpa [hself] using hsingle
    · intro heq candidates
      simp only [horder.congr_right heq]
  · simp only [select_of_ne_fixed compatible _ h hfixed,
      select_of_ne_fixed compatible _ h' (hmode ▸ hfixed)]
    constructor
    · intro hall
      have hle := (highestFrom_singleton_eq_some_iff (baseline filter) (baseline filter)).mpr
        hself.ge
      rw [hall, highestFrom_singleton_eq_some_iff] at hle
      have hge := (highestFrom_singleton_eq_some_iff (baseline filter') (baseline filter')).mpr
        hself'.ge
      rw [← hall, highestFrom_singleton_eq_some_iff] at hge
      omega
    · intro heq candidates
      exact highestFrom_congr heq none candidates

/-- **Names in front of a selector.** A name without `@` does not influence the selection. What
follows the first `@` of a name is a part of what candidates are compared with, and the name has no
influence exactly if that makes no difference to a comparison. -/
theorem select_name_iff (compatible : Bool) {name selector : String}
    (hselector : '@' ∉ selector.toList) :
    ('@' ∉ name.toList → ∀ candidates,
        select compatible (name ++ "@" ++ selector) candidates =
          select compatible ("@" ++ selector) candidates) ∧
      ∀ front back, name = front ++ "@" ++ back → '@' ∉ front.toList →
        ((∀ candidates, select compatible (name ++ "@" ++ selector) candidates =
            select compatible ("@" ++ selector) candidates) ↔
          compare false
            (operand (MatchMode.ofFilter ("@" ++ selector)) (back ++ "@" ++ selector))
            (operand (MatchMode.ofFilter ("@" ++ selector)) selector) = 0) := by
  have hmode := MatchMode.ofFilter_append hselector
  have hempty : baseline ("@" ++ selector) =
      operand (MatchMode.ofFilter ("@" ++ selector)) selector := by
    have h := @baseline_append "" (by simp) selector
    rwa [String.empty_append] at h
  constructor
  · intro hname
    rw [select_eq_iff compatible (by simp) (by simp) (hmode name), baseline_append hname,
      hmode name, hempty]
    exact (compare_isScaledOrder false).self _
  · rintro front back rfl hfront
    have hassoc : front ++ "@" ++ back ++ "@" ++ selector =
        front ++ "@" ++ (back ++ "@" ++ selector) := by
      simp only [String.append_assoc]
    rw [select_eq_iff compatible (by simp) (by simp) (hmode _), hempty]
    have hbaseline := baseline_append hfront (back ++ "@" ++ selector)
    rw [← hassoc, hmode] at hbaseline
    rw [hbaseline]

/-- A name without `@`, one with an `@` in front of a lower bound, and one that becomes a part of a
fixed version. -/
theorem select_name_iff_ats :
    select true ("Vendor::Pack" ++ "@" ++ ">=1") ["2", "0.9"] =
        select true ("@" ++ ">=1") ["2", "0.9"] ∧
      (∀ candidates, select true ("N@9" ++ "@" ++ ">=1") candidates =
        select true ("@" ++ ">=1") candidates) ∧
      ¬∀ candidates, select true ("a@b" ++ "@" ++ "1.0") candidates =
        select true ("@" ++ "1.0") candidates := by
  have hplain := @select_name_iff true "Vendor::Pack" ">=1" (by decide)
  have hbound := @select_name_iff true "N@9" ">=1" (by decide)
  have hfixed := @select_name_iff true "a@b" "1.0" (by decide)
  exact ⟨hplain.1 (by decide) ["2", "0.9"],
    (hbound.2 "N" "9" rfl (by decide)).mpr (by decide +kernel),
    mt (hfixed.2 "a" "b" rfl (by decide)).mp (by decide +kernel)⟩

/-- The selector behind the last `@` asks for `1.0`, and the candidate `1.0` is not selected. -/
theorem select_ne_of_at_in_name :
    select false ("a@b" ++ "@" ++ "1.0") ["1.0"] = none ∧
      select false ("@" ++ "1.0") ["1.0"] = some "1.0" := by
  decide +kernel

end Selection

end PackQuery.Version
