import PackQuery.CharSet

/-!
# Sets of separate ranges

Ranges in ascending order with a gap between any two are the form of a set, so making a set of them
changes nothing (`ofRanges_of_isSeparate`). Two sets one behind the other have no character in
common, and their symmetric difference lists the ranges of both (`symmDiff_of_isSeparate`).
-/

namespace PackQuery.CharSet

variable {a b ranges : List (Nat × Nat)}

/-- Whether ranges ascend and have a gap between any two. -/
structure IsSeparate (ranges : List (Nat × Nat)) : Prop where
  gap : ranges.Pairwise fun r s => r.2 + 1 < s.1
  ordered : ∀ r ∈ ranges, r.1 ≤ r.2

theorem IsSeparate.of_append (h : IsSeparate (a ++ b)) : IsSeparate a ∧ IsSeparate b :=
  have hgap := List.pairwise_append.mp h.gap
  ⟨⟨hgap.1, fun r hr => h.ordered r (List.mem_append_left b hr)⟩,
    ⟨hgap.2.1, fun r hr => h.ordered r (List.mem_append_right a hr)⟩⟩

theorem joinFrom_of_isSeparate {lo hi : Nat} (h : IsSeparate ((lo, hi) :: ranges)) :
    joinFrom lo hi ranges = (lo, hi) :: ranges := by
  induction ranges generalizing lo hi with
  | nil => rfl
  | cons r ranges ih =>
    obtain ⟨hfirst, hrest⟩ := List.pairwise_cons.mp h.gap
    have hgap : ¬r.1 ≤ hi + 1 := Nat.not_le.mpr (hfirst r List.mem_cons_self)
    rw [joinFrom, if_neg hgap, ih ⟨hrest, fun s hs => h.ordered s (List.mem_cons_of_mem _ hs)⟩]

/-- **Separate ranges are the form of their set.** -/
theorem ofRanges_of_isSeparate (h : IsSeparate ranges) : ofRanges ranges = ⟨ranges⟩ := by
  have hsorted : ranges.Pairwise fun r s => decide (r.1 ≤ s.1) = true := by
    refine h.gap.imp_of_mem fun hr _ hgap => decide_eq_true ?_
    have hordered := h.ordered _ hr
    omega
  rw [ofRanges, List.mergeSort_of_pairwise hsorted]
  cases ranges with
  | nil => rfl
  | cons r rest => exact congrArg CharSet.mk (joinFrom_of_isSeparate h)

/-! ## Symmetric differences -/

theorem boundsOnto_append (others : List Nat) (a b : List (Nat × Nat)) :
    boundsOnto others (a ++ b) = boundsOnto (boundsOnto others a) b := by
  induction a generalizing others with
  | nil => rfl
  | cons r a ih => exact ih _

theorem boundsOnto_eq (others : List Nat) (a : List (Nat × Nat)) :
    boundsOnto others a = boundsOnto [] a ++ others := by
  induction a generalizing others with
  | nil => rfl
  | cons r a ih => rw [boundsOnto, ih, boundsOnto, ih [_, _], List.append_assoc]; rfl

theorem mem_boundsOnto {n : Nat} {a : List (Nat × Nat)} (h : n ∈ boundsOnto [] a) :
    ∃ r ∈ a, n = r.1 ∨ n = r.2 + 1 := by
  induction a with
  | nil => cases h
  | cons r a ih =>
    rw [boundsOnto, boundsOnto_eq] at h
    simp only [List.mem_append, List.mem_cons, List.not_mem_nil, or_false] at h
    rcases h with h | h | h
    · obtain ⟨s, hs, hn⟩ := ih h
      exact ⟨s, List.mem_cons_of_mem r hs, hn⟩
    · exact ⟨r, List.mem_cons_self, Or.inr h⟩
    · exact ⟨r, List.mem_cons_self, Or.inl h⟩

/-- Lists one behind the other have nothing in common. -/
theorem oddOnto_of_lt (others : List Nat) {a b : List Nat} (h : ∀ m ∈ a, ∀ n ∈ b, m < n) :
    oddOnto others a b = a.reverse ++ (b.reverse ++ others) := by
  induction b generalizing others with
  | nil => cases a <;> simp [oddOnto, List.reverseAux_eq]
  | cons n b ih =>
    cases a with
    | nil => simp [oddOnto, List.reverseAux_eq]
    | cons m a =>
      have hlt : m < n := h m List.mem_cons_self n List.mem_cons_self
      rw [oddOnto, if_pos hlt, ih _ fun k hk l hl => h k hk l (List.mem_cons_of_mem n hl)]
      simp

theorem betweenBounds_boundsOnto {before : List (Nat × Nat)} (h : ∀ r ∈ ranges, trim? r = some r) :
    betweenBounds before (boundsOnto [] ranges).reverse = before.reverse ++ ranges := by
  induction ranges generalizing before with
  | nil => simp [boundsOnto, betweenBounds]
  | cons r ranges ih =>
    obtain ⟨hr, hrest⟩ := List.forall_mem_cons.mp h
    rw [boundsOnto, boundsOnto_eq, List.reverse_append]
    simp only [List.reverse_cons, List.reverse_nil, List.nil_append, List.cons_append,
      betweenBounds, Nat.add_sub_cancel, hr, Option.toList_some]
    rw [ih hrest]
    simp

/-- **The symmetric difference of sets one behind the other** lists the ranges of both. -/
theorem symmDiff_of_isSeparate (h : IsSeparate (a ++ b)) (htrim : ∀ r ∈ a ++ b, trim? r = some r) :
    symmDiff ⟨a⟩ ⟨b⟩ = ⟨a ++ b⟩ := by
  have hlt : ∀ m ∈ boundsOnto [] a, ∀ n ∈ boundsOnto [] b, m < n := by
    intro m hm n hn
    obtain ⟨r, hr, hm⟩ := mem_boundsOnto hm
    obtain ⟨s, hs, hn⟩ := mem_boundsOnto hn
    have hgap := (List.pairwise_append.mp h.gap).2.2 r hr s hs
    have hr' := h.ordered r (List.mem_append_left b hr)
    have hs' := h.ordered s (List.mem_append_right a hs)
    omega
  have hbounds : oddOnto [] (boundsOnto [] a) (boundsOnto [] b) =
      (boundsOnto [] (a ++ b)).reverse := by
    rw [oddOnto_of_lt [] hlt, boundsOnto_append, boundsOnto_eq (boundsOnto [] a), List.append_nil,
      List.reverse_append]
  rw [symmDiff, hbounds, betweenBounds_boundsOnto htrim]
  rfl

end PackQuery.CharSet
