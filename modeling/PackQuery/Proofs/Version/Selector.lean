import Mathlib.Data.List.Find
import Mathlib.Data.List.Infix
import PackQuery.Version.Selection
import PackQuery.Proofs.Text.Cut
import PackQuery.Proofs.Version.ScaledOrder

/-!
# What a selector selects

**Baselines** (`IsBaseline`). A selector compares with the text behind the first `@`, and a lower
bound with what follows the first `>=` in there. The mode, however, is read behind the *last* `@`.

**The latest versions** (`highestFrom_eq_find?`). Candidates are taken as long as they are not
below the baseline, and each one that is taken becomes the baseline of those after it. So the test
changes during the run, and still the outcome is that of one test: the last of the highest
candidates is selected, unless all are below the first baseline. A candidate that is passed over
is below the baseline of its time, and the baseline only rises (`isHighestFrom_cons_iff`).

Main result: `select_selector`.
-/

namespace PackQuery.Version

/-! ## Modes -/

/-- A filter asks for one version, for the latest one or for a lower bound. -/
theorem MatchMode.ofFilter_cases (filter : String) :
    ofFilter filter = fixed ∨ ofFilter filter = latest ∨ ofFilter filter = higherOrEqual := by
  unfold ofFilter
  dsimp only
  split
  · split <;> simp
  · simp

/-- A lower bound starts with `>=` behind the last `@`. -/
theorem MatchMode.bound_isPrefix {filter : String} (h : ofFilter filter = higherOrEqual) :
    ">=".toList <+: Chars.afterLast '@' filter.toList := by
  unfold ofFilter at h
  rw [Text.afterLast, String.toList_ofList] at h
  dsimp only at h
  split at h
  · split at h
    · cases h
    · rename_i hfront
      show ['>', '='] <+: _
      rw [← hfront]
      exact List.takeWhile_prefix _
    · cases h
  · cases h

namespace Selection

/-! ## Baselines -/

/-- The text that a selector compares with: it follows the first `@`, and in a lower bound the
first `>=` behind that. -/
def IsBaseline (filter b : String) : Prop :=
  ∃ selector, Chars.FollowsFirst "@".toList filter.toList selector ∧
    (MatchMode.ofFilter filter = .higherOrEqual →
      Chars.FollowsFirst ">=".toList selector b.toList) ∧
    (MatchMode.ofFilter filter ≠ .higherOrEqual → b.toList = selector)

theorem toList_afterFirst {needle s : String} {t : List Char}
    (h : Chars.FollowsFirst needle.toList s.toList t) : (Text.afterFirst needle s).toList = t := by
  rw [Text.afterFirst, Chars.afterFirst?_eq_some_iff.mpr h]
  exact String.toList_ofList

/-- In a lower bound there is a `>=` behind the first `@`, since there is one behind the last. -/
theorem exists_bound {filter : String} {selector : List Char}
    (h : Chars.FollowsFirst "@".toList filter.toList selector)
    (hmode : MatchMode.ofFilter filter = .higherOrEqual) :
    ∃ b, Chars.FollowsFirst ">=".toList selector b := by
  obtain ⟨name, hfilter, -⟩ := h
  have hlast := Chars.afterLast_isSuffix '@' name selector
  have hbound := MatchMode.bound_isPrefix hmode
  have hcons : name ++ "@".toList ++ selector = name ++ '@' :: selector := by simp
  rw [hfilter, hcons] at hbound
  obtain ⟨b, hb⟩ := Chars.exists_afterFirst? (hbound.isInfix.trans hlast.isInfix)
  exact ⟨b, Chars.afterFirst?_eq_some_iff.mp hb⟩

theorem isBaseline_baseline {filter : String} (h : '@' ∈ filter.toList) :
    IsBaseline filter (baseline filter) := by
  obtain ⟨selector, hselector⟩ :=
    Chars.exists_afterFirst? ((List.singleton_infix_iff '@' filter.toList).mpr h)
  have hfirst : Chars.FollowsFirst "@".toList filter.toList selector :=
    Chars.afterFirst?_eq_some_iff.mp hselector
  have htext := toList_afterFirst hfirst
  unfold baseline
  refine ⟨selector, hfirst, fun hmode => ?_, fun hmode => ?_⟩
  · obtain ⟨b, hb⟩ := exists_bound hfirst hmode
    rw [if_pos hmode, toList_afterFirst (htext ▸ hb)]
    exact hb
  · rw [if_neg hmode]
    exact htext

theorem IsBaseline.unique {filter b b' : String} (h : IsBaseline filter b)
    (h' : IsBaseline filter b') : b = b' := by
  obtain ⟨selector, hselector, hbound, htext⟩ := h
  obtain ⟨selector', hselector', hbound', htext'⟩ := h'
  obtain rfl := hselector.unique hselector'
  apply String.toList_inj.mp
  by_cases hmode : MatchMode.ofFilter filter = .higherOrEqual
  · exact (hbound hmode).unique (hbound' hmode)
  · exact (htext hmode).trans (htext' hmode).symm

/-! ## The last of the highest candidates -/

/-- A candidate that is not below the baseline and that no candidate is above. -/
def IsHighestFrom (baseline : String) (candidates : List String) (c : String) : Prop :=
  0 ≤ compare false c baseline ∧ ∀ d ∈ candidates, compare false d c ≤ 0

instance (baseline : String) (candidates : List String) :
    DecidablePred (IsHighestFrom baseline candidates) := fun c =>
  inferInstanceAs (Decidable (0 ≤ compare false c baseline ∧
    ∀ d ∈ candidates, compare false d c ≤ 0))

/-- The best candidate so far is kept until another one is taken. -/
theorem highestFrom_eq_or (baseline : String) (best : Option String) (candidates : List String) :
    highestFrom baseline best candidates = (highestFrom baseline none candidates).or best := by
  induction candidates generalizing baseline best with
  | nil => rfl
  | cons c rest ih =>
    rw [highestFrom, highestFrom]
    split
    · rw [ih c (some c), Option.or_assoc, Option.some_or]
    · exact ih baseline best

/-- Nothing is selected only if all candidates are below the baseline. -/
theorem highestFrom_eq_none_iff (baseline : String) (candidates : List String) :
    highestFrom baseline none candidates = none ↔
      ∀ c ∈ candidates, compare false c baseline < 0 := by
  induction candidates generalizing baseline with
  | nil => simp [highestFrom]
  | cons c rest ih =>
    rw [highestFrom, List.forall_mem_cons]
    split
    · rename_i hc
      rw [highestFrom_eq_or, Option.or_eq_none_iff]
      exact iff_of_false (fun h => nomatch h.2) fun h => absurd h.1 (not_lt.mpr hc)
    · rename_i hc
      rw [ih, and_iff_right (not_le.mp hc)]

/-- **The baseline may be raised.** Behind a candidate that is not below the baseline, the highest
candidates are those of the rest that are not below this candidate. -/
theorem isHighestFrom_cons_iff {baseline c m : String} (rest : List String)
    (hc : 0 ≤ compare false c baseline) :
    IsHighestFrom baseline (c :: rest) m ↔ IsHighestFrom c rest m := by
  have h := compare_isScaledOrder false
  have hswap := h.swap c m
  unfold IsHighestFrom
  rw [List.forall_mem_cons]
  constructor
  · rintro ⟨-, hcm, hrest⟩
    exact ⟨by omega, hrest⟩
  · rintro ⟨hmc, hrest⟩
    have hcm : compare false c m ≤ 0 := by omega
    exact ⟨hc.trans (h.mono hcm baseline), hcm, hrest⟩

/-- **A candidate below the baseline may be passed over.** -/
theorem isHighestFrom_cons_iff_of_lt {baseline c m : String} (rest : List String)
    (hc : compare false c baseline < 0) :
    IsHighestFrom baseline (c :: rest) m ↔ IsHighestFrom baseline rest m := by
  have h := compare_isScaledOrder false
  unfold IsHighestFrom
  rw [List.forall_mem_cons]
  refine ⟨fun hm => ⟨hm.1, hm.2.2⟩, fun hm => ⟨hm.1, ?_, hm.2⟩⟩
  have hswap := h.swap m baseline
  have hm' := hm.1
  exact h.trans hc.le (by omega)

/-- **The raised baselines find the last of the highest candidates.** -/
theorem highestFrom_eq_find? (baseline : String) (candidates : List String) :
    highestFrom baseline none candidates =
      candidates.reverse.find? fun m => IsHighestFrom baseline candidates m := by
  induction candidates generalizing baseline with
  | nil => rfl
  | cons c rest ih =>
    rw [highestFrom, List.reverse_cons, List.find?_append]
    split
    · rename_i hc
      have hrest : rest.reverse.find? (fun m => IsHighestFrom baseline (c :: rest) m) =
          highestFrom c none rest := by
        simp only [ih c, isHighestFrom_cons_iff rest hc]
      rw [hrest, highestFrom_eq_or]
      cases hr : highestFrom c none rest with
      | some m => rfl
      | none =>
        -- Nothing behind `c` is as high, so `c` is the highest.
        have hall := (highestFrom_eq_none_iff c rest).mp hr
        have hself := (compare_isScaledOrder false).self c
        have hhighest : IsHighestFrom baseline (c :: rest) c :=
          ⟨hc, List.forall_mem_cons.mpr ⟨hself.le, fun d hd => (hall d hd).le⟩⟩
        simp [hhighest]
    · rename_i hc
      have hlow : ¬IsHighestFrom baseline (c :: rest) c := fun h => hc h.1
      have hrest : rest.reverse.find? (fun m => IsHighestFrom baseline (c :: rest) m) =
          highestFrom baseline none rest := by
        simp only [ih baseline, isHighestFrom_cons_iff_of_lt rest (not_le.mp hc)]
      rw [hrest]
      simp [hlow]

/-- What is selected is one of the highest candidates. -/
theorem isHighestFrom_of_highestFrom {baseline : String} {candidates : List String} {m : String}
    (h : highestFrom baseline none candidates = some m) :
    m ∈ candidates ∧ IsHighestFrom baseline candidates m := by
  rw [highestFrom_eq_find?] at h
  have hhighest := List.find?_some h
  exact ⟨List.mem_reverse.mp (List.mem_of_find?_eq_some h), of_decide_eq_true hhighest⟩

/-! ## Selection by a selector -/

theorem select_of_fixed (compatible : Bool) {filter : String} (candidates : List String)
    (hfilter : '@' ∈ filter.toList) (hmode : MatchMode.ofFilter filter = .fixed) :
    select compatible filter candidates =
      candidates.find? fun c => compare false c (baseline filter) = 0 := by
  rw [select, if_pos (List.contains_iff_mem.mpr hfilter), hmode]
  rfl

theorem select_of_ne_fixed (compatible : Bool) {filter : String} (candidates : List String)
    (hfilter : '@' ∈ filter.toList) (hmode : MatchMode.ofFilter filter ≠ .fixed) :
    select compatible filter candidates = highestFrom (baseline filter) none candidates := by
  rw [select, if_pos (List.contains_iff_mem.mpr hfilter)]
  split
  · contradiction
  · rfl

/-- **What a selector selects.** A fixed one takes the first candidate equal to its baseline. The
others take the last of the highest candidates that are not below the baseline, and nothing only
if all candidates are below it. -/
theorem select_selector (compatible : Bool) {filter : String} (candidates : List String)
    (hfilter : '@' ∈ filter.toList) :
    ∃ b, IsBaseline filter b ∧
      (MatchMode.ofFilter filter = .fixed ∧
          select compatible filter candidates =
            candidates.find? (fun c => compare false c b = 0) ∨
        (MatchMode.ofFilter filter = .latest ∨ MatchMode.ofFilter filter = .higherOrEqual) ∧
          (select compatible filter candidates = none ↔
            ∀ c ∈ candidates, compare false c b < 0) ∧
          select compatible filter candidates =
            candidates.findRev? (fun m => IsHighestFrom b candidates m)) := by
  refine ⟨baseline filter, isBaseline_baseline hfilter, ?_⟩
  rcases MatchMode.ofFilter_cases filter with hmode | hmode
  · exact Or.inl ⟨hmode, select_of_fixed compatible candidates hfilter hmode⟩
  · have hne : MatchMode.ofFilter filter ≠ .fixed := by
      rcases hmode with hmode | hmode <;> rw [hmode] <;> decide
    rw [select_of_ne_fixed compatible candidates hfilter hne, List.findRev?_eq_find?_reverse]
    exact Or.inr ⟨hmode, highestFrom_eq_none_iff _ _, highestFrom_eq_find? _ _⟩

/-- A lower bound behind a name, with two spellings of the highest version. -/
theorem select_selector_spellings :
    IsBaseline "Pack@>=1.0" "1.0" ∧
      (select false "Pack@>=1.0" ["0.9", "2.01", "1.5", "2.1"] = none ↔
        ∀ c ∈ ["0.9", "2.01", "1.5", "2.1"], compare false c "1.0" < 0) ∧
      select false "Pack@>=1.0" ["0.9", "2.01", "1.5", "2.1"] =
        ["0.9", "2.01", "1.5", "2.1"].findRev?
          (fun m => IsHighestFrom "1.0" ["0.9", "2.01", "1.5", "2.1"] m) ∧
      select false "Pack@>=1.0" ["0.9", "2.01", "1.5", "2.1"] = some "2.1" := by
  obtain ⟨b, hb, h⟩ :=
    @select_selector false "Pack@>=1.0" ["0.9", "2.01", "1.5", "2.1"] (by decide)
  have hbaseline : baseline "Pack@>=1.0" = "1.0" := by decide +kernel
  have hb' : IsBaseline "Pack@>=1.0" "1.0" := hbaseline ▸ isBaseline_baseline (by decide)
  obtain rfl := hb.unique hb'
  have hmode : MatchMode.ofFilter "Pack@>=1.0" ≠ .fixed := by decide +kernel
  rcases h with ⟨hfixed, -⟩ | ⟨-, hnone, hlast⟩
  · exact absurd hfixed hmode
  · exact ⟨hb', hnone, hlast, by decide +kernel⟩

end Selection

end PackQuery.Version
