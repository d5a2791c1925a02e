import Mathlib.Data.List.Induction
import PackQuery.Version.Order
import PackQuery.Proofs.Version.ScaledOrder

/-!
# Version keys in sorted sets

A sorted set goes by what comparisons say: keys that compare equal are one key to it, and where a
key belongs is found by comparing it with some of the others. So it loses keys if different ones
compare equal, and what it holds depends on the order of insertion if three keys compare in a
circle.

**The order of keys.** Versions are preordered, many spellings being equal, and texts are ordered
with equality. Breaking the ties of the first by the second gives a total order of the texts.

**Sorted sets** (`sortedSet_isCanonical`). Inserting keeps a list of keys increasing and adds one
member (`IsIncreasing.insert`, `mem_insert`). An increasing list is determined by its members
(`IsIncreasing.ext`), so the keys end up in one and the same list in whatever order, and by
whatever set, they are sorted.
-/

namespace PackQuery.VersionKey

/-! ## The order of keys -/

/-- The ties of the scaled order are broken by the texts. -/
theorem compare_eq_compareLex :
    compare = compareLex (fun a b => Ord.compare (Version.compare true a b) 0) Ord.compare := rfl

instance : Std.TransCmp compare := by
  have hversions := (Version.compare_isScaledOrder true).transCmp
  rw [compare_eq_compareLex]
  infer_instance

instance : Std.LawfulEqCmp compare where
  compare_self := Std.ReflCmp.compare_self
  eq_of_compare {a b} h := by
    rw [compare, Ordering.then_eq_eq] at h
    exact Std.LawfulEqOrd.eq_of_compare h.2

/-- Keys in order are versions in order. -/
theorem version_le_of_compare {a b : String} (h : compare a b = .lt) :
    Version.compare true a b ≤ 0 := by
  rw [compare, Ordering.then_eq_lt] at h
  rcases h with h | ⟨h, -⟩
  · exact (Std.compare_eq_lt.mp h).le
  · exact (Std.LawfulEqOrd.eq_of_compare h).le

/-! ## Increasing lists of keys -/

/-- Whether each key of a list is below all that follow it. -/
def IsIncreasing (keys : List String) : Prop := keys.Pairwise fun a b => compare a b = .lt

theorem IsIncreasing.nodup {keys : List String} (h : IsIncreasing keys) : keys.Nodup :=
  h.imp fun {a b} hlt he => by
    rw [he, @Std.ReflCmp.compare_self _ compare] at hlt
    cases hlt

/-- **An increasing list is determined by its members.** -/
theorem IsIncreasing.ext {keys keys' : List String} (h : IsIncreasing keys)
    (h' : IsIncreasing keys') (hmem : ∀ s, s ∈ keys ↔ s ∈ keys') : keys = keys' := by
  have hperm : keys.Perm keys' := (List.perm_ext_iff_of_nodup h.nodup h'.nodup).mpr hmem
  refine hperm.eq_of_pairwise (fun a b _ _ hab hba => ?_) h h'
  exact absurd hba (Std.OrientedCmp.not_lt_of_lt hab)

/-! ## One insertion -/

theorem mem_insert {s t : String} {keys : List String} :
    t ∈ insert s keys ↔ t = s ∨ t ∈ keys := by
  induction keys with
  | nil => simp [insert]
  | cons u rest ih =>
    rw [insert]
    cases h : compare s u with
    | lt => exact List.mem_cons
    | eq =>
      rw [Std.LawfulEqCmp.eq_of_compare h]
      simp
    | gt =>
      show t ∈ u :: insert s rest ↔ _
      rw [List.mem_cons, List.mem_cons, ih]
      exact or_left_comm

/-- **Inserting keeps a list of keys increasing.** -/
theorem IsIncreasing.insert {keys : List String} (h : IsIncreasing keys) (s : String) :
    IsIncreasing (insert s keys) := by
  induction keys with
  | nil => exact List.pairwise_singleton _ s
  | cons u rest ih =>
    obtain ⟨hu, hrest⟩ := List.pairwise_cons.mp h
    rw [VersionKey.insert]
    cases hs : compare s u with
    | lt =>
      refine List.pairwise_cons.mpr ⟨List.forall_mem_cons.mpr ⟨hs, fun t ht => ?_⟩, h⟩
      exact Std.TransCmp.lt_trans hs (hu t ht)
    | eq => exact h
    | gt =>
      refine List.pairwise_cons.mpr ⟨fun t ht => ?_, ih hrest⟩
      rcases mem_insert.mp ht with rfl | ht
      · exact Std.OrientedCmp.gt_iff_lt.mp hs
      · exact hu t ht

/-! ## All insertions -/

theorem sortedSet_append (texts : List String) (s : String) :
    sortedSet (texts ++ [s]) = insert s (sortedSet texts) := by
  simp [sortedSet]

/-- **A sorted set holds the texts that were put in.** -/
theorem mem_sortedSet {texts : List String} {s : String} : s ∈ sortedSet texts ↔ s ∈ texts := by
  induction texts using List.reverseRecOn with
  | nil => rfl
  | append_singleton texts t ih =>
    rw [sortedSet_append, mem_insert, ih, List.mem_append, List.mem_singleton]
    exact or_comm

/-- **A sorted set is increasing.** -/
theorem isIncreasing_sortedSet (texts : List String) : IsIncreasing (sortedSet texts) := by
  induction texts using List.reverseRecOn with
  | nil => exact List.Pairwise.nil
  | append_singleton texts t ih =>
    rw [sortedSet_append]
    exact ih.insert t

/-- **Sorted sets of version keys lose nothing and do not depend on the order of insertion.** Each
text is held once. The keys increase and their versions do not decrease, for neighbours and all
other pairs. Any other increasing list with the same members is the same list, and only the same
text is an equal key. -/
theorem sortedSet_isCanonical (texts : List String) :
    (∀ s, (sortedSet texts).count s = if s ∈ texts then 1 else 0) ∧
      (sortedSet texts).Pairwise
        (fun a b => compare a b = .lt ∧ Version.compare true a b ≤ 0) ∧
      (∀ keys, IsIncreasing keys → (∀ s, s ∈ keys ↔ s ∈ texts) → keys = sortedSet texts) ∧
      (∀ texts', texts'.Perm texts → sortedSet texts' = sortedSet texts) ∧
      ∀ a b, compare a b = .eq ↔ a = b := by
  have hset := isIncreasing_sortedSet texts
  have hunique : ∀ keys, IsIncreasing keys → (∀ s, s ∈ keys ↔ s ∈ texts) →
      keys = sortedSet texts :=
    fun keys hkeys hmem => hkeys.ext hset fun s => (hmem s).trans mem_sortedSet.symm
  refine ⟨fun s => ?_, ?_, hunique, fun texts' hperm => ?_, fun a b => ?_⟩
  · rw [hset.nodup.count]
    simp only [mem_sortedSet]
  · exact hset.imp fun hlt => ⟨hlt, version_le_of_compare hlt⟩
  · exact hunique _ (isIncreasing_sortedSet texts') fun s => mem_sortedSet.trans hperm.mem_iff
  · exact Std.LawfulEqCmp.compare_eq_iff_eq

/-- Three spellings of one version and a text that is put in twice, in two orders. -/
theorem sortedSet_isCanonical_spellings :
    ["2.1", "v2", "2.01", "2.1.0+a", "2.1"].Perm ["2.1.0+a", "2.1", "2.1", "v2", "2.01"] ∧
      sortedSet ["2.1", "v2", "2.01", "2.1.0+a", "2.1"] =
        sortedSet ["2.1.0+a", "2.1", "2.1", "v2", "2.01"] ∧
      sortedSet ["2.1.0+a", "2.1", "2.1", "v2", "2.01"] = ["2.01", "2.1", "2.1.0+a", "v2"] := by
  have hperm : ["2.1", "v2", "2.01", "2.1.0+a", "2.1"].Perm
      ["2.1.0+a", "2.1", "2.1", "v2", "2.01"] := by decide +kernel
  obtain ⟨-, -, -, horder, -⟩ :=
    sortedSet_isCanonical ["2.1.0+a", "2.1", "2.1", "v2", "2.01"]
  exact ⟨hperm, horder _ hperm, by decide +kernel⟩

end PackQuery.VersionKey
