import PackQuery.Version.Selection
import PackQuery.Proofs.Version.ScaledOrder

/-!
# What is selected

**Ranges** (`select_range`). The selected candidate is the first of those that are inside the
range and have none above them inside the range, and nothing is selected only if no candidate is
inside. The selection goes through the candidates once and keeps the best one so far. The
invariant (`IsFirstHighest`) says what that candidate is among those already seen: all before it
are below it, and none is above it.
-/

namespace PackQuery.Version.Selection

/-! ## The first of the highest versions -/

/-- A version of a list such that those before it are below it and none is above it. -/
structure IsFirstHighest (versions : List String) (c : String) : Prop where
  first : ∃ before after, versions = before ++ c :: after ∧ ∀ b ∈ before, compare true b c < 0
  highest : ∀ d ∈ versions, compare true d c ≤ 0

theorem IsFirstHighest.single (c : String) : IsFirstHighest [c] c where
  first := ⟨[], [], rfl, fun b hb => absurd hb List.not_mem_nil⟩
  highest d hd := by
    rw [List.mem_singleton.mp hd, (compare_isScaledOrder true).self]

/-- A version in front of a higher one leaves the first of the highest as it is. -/
theorem IsFirstHighest.cons_of_lt {b c m : String} {rest : List String}
    (h : IsFirstHighest (c :: rest) m) (hlt : compare true b c < 0) :
    IsFirstHighest (b :: c :: rest) m := by
  obtain ⟨before, after, heq, hbefore⟩ := h.first
  have hbm := (compare_isScaledOrder true).lt_of_lt_of_le hlt (h.highest c List.mem_cons_self)
  exact {
    first := ⟨b :: before, after, by rw [heq]; rfl, List.forall_mem_cons.mpr ⟨hbm, hbefore⟩⟩
    highest := List.forall_mem_cons.mpr ⟨hbm.le, h.highest⟩ }

/-- So does a version behind one that is not lower. -/
theorem IsFirstHighest.cons_of_le {b c m : String} {rest : List String}
    (h : IsFirstHighest (b :: rest) m) (hle : compare true c b ≤ 0) :
    IsFirstHighest (b :: c :: rest) m := by
  obtain ⟨hbm, hrest⟩ := List.forall_mem_cons.mp h.highest
  have hcm := (compare_isScaledOrder true).trans hle hbm
  refine ⟨?_, List.forall_mem_cons.mpr ⟨hbm, List.forall_mem_cons.mpr ⟨hcm, hrest⟩⟩⟩
  obtain ⟨before, after, heq, hbefore⟩ := h.first
  cases before with
  | nil =>
    -- `b` itself is the first of the highest, and `c` stands behind it.
    obtain ⟨rfl, rfl⟩ := List.cons_eq_cons.mp heq
    exact ⟨[], c :: rest, rfl, fun x hx => absurd hx List.not_mem_nil⟩
  | cons b' before =>
    obtain ⟨rfl, rfl⟩ := List.cons_eq_cons.mp heq
    obtain ⟨hlt, hbefore⟩ := List.forall_mem_cons.mp hbefore
    have hcm' := (compare_isScaledOrder true).lt_of_le_of_lt hle hlt
    exact ⟨b :: c :: before, after, rfl,
      List.forall_mem_cons.mpr ⟨hlt, List.forall_mem_cons.mpr ⟨hcm', hbefore⟩⟩⟩

theorem isFirstHighest_firstHighest (best : String) (rest : List String) :
    IsFirstHighest (best :: rest) (firstHighest best rest) := by
  induction rest generalizing best with
  | nil => exact .single best
  | cons c rest ih =>
    rw [firstHighest]
    split
    · rename_i hlt
      have hswap := (compare_isScaledOrder true).swap c best
      exact (ih c).cons_of_lt (by omega)
    · rename_i hle
      exact (ih best).cons_of_le (not_lt.mp hle)

/-- The invariant determines the version: it is the first that no version is above. -/
theorem IsFirstHighest.find?_eq {versions : List String} {m : String}
    (h : IsFirstHighest versions m) :
    versions.find? (fun c => ∀ d ∈ versions, compare true d c ≤ 0) = some m := by
  rw [List.find?_eq_some_iff_append]
  obtain ⟨before, after, heq, hbefore⟩ := h.first
  refine ⟨decide_eq_true h.highest, before, after, heq, fun b hb => ?_⟩
  have hm : m ∈ versions := by rw [heq]; simp
  have hswap := (compare_isScaledOrder true).swap b m
  have hlt := hbefore b hb
  rw [Bool.not_eq_true', decide_eq_false_iff_not]
  exact fun hall => by have := hall m hm; omega

/-! ## Selection from a range -/

/-- A candidate inside the range that no candidate inside the range is above. -/
def IsHighest (compatible : Bool) (range : String) (candidates : List String) (c : String) :
    Prop :=
  Range.locate compatible c range = 0 ∧
    ∀ d ∈ candidates, Range.locate compatible d range = 0 → compare true d c ≤ 0

instance (compatible : Bool) (range : String) (candidates : List String) :
    DecidablePred (IsHighest compatible range candidates) := fun c =>
  inferInstanceAs (Decidable (Range.locate compatible c range = 0 ∧
    ∀ d ∈ candidates, Range.locate compatible d range = 0 → compare true d c ≤ 0))

theorem admits_iff (compatible : Bool) (range c : String) :
    Range.admits compatible range c ↔ Range.locate compatible c range = 0 := by
  rw [Range.admits, beq_iff_eq]

theorem highestInRange_eq_none_iff (compatible : Bool) (range : String)
    (candidates : List String) :
    highestInRange compatible range candidates = none ↔
      ∀ c ∈ candidates, Range.locate compatible c range ≠ 0 := by
  have hfilter : candidates.filter (Range.admits compatible range) = [] ↔
      ∀ c ∈ candidates, Range.locate compatible c range ≠ 0 := by
    simp only [List.filter_eq_nil_iff, admits_iff, ne_eq]
  rw [← hfilter]
  unfold highestInRange
  cases candidates.filter (Range.admits compatible range) <;> simp

theorem highestInRange_eq_find? (compatible : Bool) (range : String) (candidates : List String) :
    highestInRange compatible range candidates =
      candidates.find? (fun c => IsHighest compatible range candidates c) := by
  have hfilter : candidates.find? (fun c => IsHighest compatible range candidates c) =
      (candidates.filter (Range.admits compatible range)).find? (fun c =>
        ∀ d ∈ candidates.filter (Range.admits compatible range), compare true d c ≤ 0) := by
    rw [List.find?_filter]
    refine congrArg (candidates.find? ·) (funext fun c => ?_)
    rw [decide_eq_decide]
    simp only [IsHighest, List.mem_filter, admits_iff, decide_eq_true_eq, and_imp]
  rw [hfilter]
  unfold highestInRange
  cases hc : candidates.filter (Range.admits compatible range) with
  | nil => rfl
  | cons c rest => exact (isFirstHighest_firstHighest c rest).find?_eq.symm

theorem select_of_not_mem (compatible : Bool) {filter : String} (candidates : List String)
    (hfilter : '@' ∉ filter.toList) :
    select compatible filter candidates = highestInRange compatible filter candidates :=
  if_neg (by simpa using hfilter)

/-- What a range selects is one of its highest candidates. -/
theorem isHighest_of_highestInRange {compatible : Bool} {range : String}
    {candidates : List String} {c : String}
    (h : highestInRange compatible range candidates = some c) :
    c ∈ candidates ∧ IsHighest compatible range candidates c := by
  rw [highestInRange_eq_find?] at h
  have hhighest := List.find?_some h
  exact ⟨List.mem_of_find?_eq_some h, of_decide_eq_true hhighest⟩

/-- **A range selects the first of the highest candidates inside it**, and nothing only if no
candidate is inside. -/
theorem select_range (compatible : Bool) {filter : String} (candidates : List String)
    (hfilter : '@' ∉ filter.toList) :
    (select compatible filter candidates = none ↔
      ∀ c ∈ candidates, Range.locate compatible c filter ≠ 0) ∧
      select compatible filter candidates =
        candidates.find? (fun c => IsHighest compatible filter candidates c) := by
  rw [select_of_not_mem compatible candidates hfilter]
  exact ⟨highestInRange_eq_none_iff compatible filter candidates,
    highestInRange_eq_find? compatible filter candidates⟩

/-- Two spellings of the highest version, behind a lower one and before one out of range. -/
theorem select_range_spellings :
    select false "1.0:3.0-" ["1.5", "2.01", "2.1", "3.1"] =
      ["1.5", "2.01", "2.1", "3.1"].find?
        (fun c => IsHighest false "1.0:3.0-" ["1.5", "2.01", "2.1", "3.1"] c) ∧
      select false "1.0:3.0-" ["1.5", "2.01", "2.1", "3.1"] = some "2.01" := by
  have h := @select_range false "1.0:3.0-" ["1.5", "2.01", "2.1", "3.1"] (by decide)
  exact ⟨h.2, by decide +kernel⟩

end PackQuery.Version.Selection
