import PackQuery.Version.Order
import PackQuery.Proofs.Version.ScaledOrder

/-!
# Sorting version texts

A sort only looks at pairs, and what it returns is in order as a whole only if the pairs fit
together. Here they do, for plain versions and for names with versions behind a delimiter.

**The order** (`transCmp_ordering`). Names are compared in natural order, then by their lengths, and
versions by the signs of their scaled order. Each of these is a total preorder of the whole texts,
whatever part of a text it looks at, and so is one of them with its ties broken by the next.

**Stability.** Texts that compare equal with a given one are a sublist of the sorted list, because
none of them is above another one. It has as many of them as there were before.

**Stable sorts** (`isStableSort_iff`). The order of a list and the order of the equal texts in it
determine the list (`eq_of_equalTo_eq`), so every stable sort gives the same one.
-/

namespace PackQuery

instance (sensitive : Bool) : Std.TransCmp (NaturalOrder.compareThenLength sensitive) :=
  inferInstanceAs (Std.TransCmp
    (compareLex (NaturalOrder.compare sensitive) (compareOn String.utf8ByteSize)))

namespace VersionOrder

variable {o : VersionOrder}

/-! ## The order -/

theorem ordering_of_none (h : o.delimiter = none) :
    o.ordering = fun a b => Ord.compare (Version.compare o.sensitive a b) 0 := by
  funext a b
  rw [ordering, compare, h]

/-- The names are compared first, and the versions break their ties. -/
theorem ordering_of_some {d : Char} (h : o.delimiter = some d) :
    o.ordering = compareLex
      (fun a b => NaturalOrder.compareThenLength o.sensitive (Text.before d a) (Text.before d b))
      (fun a b => Ord.compare
        (Version.compare o.sensitive (Text.afterLast d a) (Text.afterLast d b)) 0) := by
  funext a b
  simp only [ordering, compare, h, compareLex]
  cases NaturalOrder.compareThenLength o.sensitive (Text.before d a) (Text.before d b) <;> rfl

/-- **The order of version texts is a total preorder.** -/
theorem transCmp_ordering (o : VersionOrder) : Std.TransCmp o.ordering := by
  have hversions := (Version.compare_isScaledOrder o.sensitive).transCmp
  cases hdelimiter : o.delimiter with
  | none => rwa [ordering_of_none hdelimiter]
  | some d =>
    have hnames := transCmp_comap (NaturalOrder.compareThenLength o.sensitive) (Text.before d)
    have hparts := transCmp_comap
      (fun a b => Ord.compare (Version.compare o.sensitive a b) 0) (Text.afterLast d)
    rw [ordering_of_some hdelimiter]
    infer_instance

instance (o : VersionOrder) : Std.TransCmp o.ordering := transCmp_ordering o

theorem compare_nonpos_iff {a b : String} : o.compare a b ≤ 0 ↔ (o.ordering a b).isLE = true :=
  Std.isLE_compare.symm

theorem compare_eq_zero_iff {a b : String} : o.compare a b = 0 ↔ o.ordering a b = .eq :=
  Std.LawfulEqCmp.compare_eq_iff_eq.symm

theorem compare_self (a : String) : o.compare a a = 0 :=
  compare_eq_zero_iff.mpr Std.ReflCmp.compare_self

theorem compare_trans {a b c : String} (hab : o.compare a b ≤ 0) (hbc : o.compare b c ≤ 0) :
    o.compare a c ≤ 0 := by
  rw [compare_nonpos_iff] at hab hbc ⊢
  exact Std.TransCmp.isLE_trans hab hbc

theorem compare_total (a b : String) : o.compare a b ≤ 0 ∨ o.compare b a ≤ 0 := by
  rw [compare_nonpos_iff, compare_nonpos_iff, @Std.OrientedCmp.eq_swap _ o.ordering _ b a]
  cases o.ordering a b <;> simp

/-- Texts that are in order both ways compare equal. -/
theorem compare_antisymm {a b : String} (hab : o.compare a b ≤ 0) (hba : o.compare b a ≤ 0) :
    o.compare a b = 0 := by
  rw [compare_nonpos_iff] at hab hba
  rw [@Std.OrientedCmp.eq_swap _ o.ordering _ b a] at hba
  rw [compare_eq_zero_iff]
  cases h : o.ordering a b <;> simp_all

/-- Two texts that compare equal with a third one are in order. -/
theorem compare_nonpos_of_eq {a b c : String} (hab : o.compare a b = 0)
    (hac : o.compare a c = 0) : o.compare b c ≤ 0 := by
  rw [compare_eq_zero_iff] at hab hac
  rw [compare_nonpos_iff, ← Std.TransCmp.congr_left hab, hac]
  rfl

/-! ## Equal texts -/

/-- The texts of a list that compare equal with a given one. -/
def equalTo (o : VersionOrder) (a : String) (texts : List String) : List String :=
  texts.filter fun b => o.compare a b = 0

theorem mem_equalTo {a b : String} {texts : List String} :
    b ∈ o.equalTo a texts ↔ b ∈ texts ∧ o.compare a b = 0 := by
  simp [equalTo]

theorem equalTo_cons (a b : String) (texts : List String) :
    o.equalTo a (b :: texts) =
      if o.compare a b = 0 then b :: o.equalTo a texts else o.equalTo a texts := by
  simp [equalTo, List.filter_cons]

theorem equalTo_equalTo (a : String) (texts : List String) :
    o.equalTo a (o.equalTo a texts) = o.equalTo a texts := by
  simp [equalTo, List.filter_filter]

/-- Equal texts are in order, however they stand. -/
theorem pairwise_equalTo (a : String) (texts : List String) :
    (o.equalTo a texts).Pairwise fun b c => o.compare b c ≤ 0 := by
  refine List.pairwise_of_forall_mem_list fun b hb c hc => ?_
  exact compare_nonpos_of_eq (mem_equalTo.mp hb).2 (mem_equalTo.mp hc).2

/-! ## The sorted list -/

/-- Whether a list is a stable sort of some texts: it has the same texts, none of them stands in
front of a lower one, and those that compare equal with any given text stand as they stood. -/
structure IsStableSort (o : VersionOrder) (texts sorted : List String) : Prop where
  perm : sorted.Perm texts
  increasing : sorted.Pairwise fun a b => o.compare a b ≤ 0
  stable : ∀ a, o.equalTo a sorted = o.equalTo a texts

theorem sort_isStableSort (o : VersionOrder) (texts : List String) :
    o.IsStableSort texts (o.sort texts) := by
  have htrans : ∀ a b c, decide (o.compare a b ≤ 0) = true → decide (o.compare b c ≤ 0) = true →
      decide (o.compare a c ≤ 0) = true := by
    simp only [decide_eq_true_eq]
    exact fun a b c => compare_trans
  have htotal : ∀ a b, (decide (o.compare a b ≤ 0) || decide (o.compare b a ≤ 0)) = true := by
    simp only [Bool.or_eq_true, decide_eq_true_eq]
    exact compare_total
  have hperm := List.mergeSort_perm texts fun a b => o.compare a b ≤ 0
  refine ⟨hperm, ?_, fun a => ?_⟩
  · exact (List.pairwise_mergeSort htrans htotal texts).imp of_decide_eq_true
  · have hequal := (pairwise_equalTo (o := o) a texts).imp decide_eq_true
    have hsublist := List.sublist_mergeSort htrans htotal hequal List.filter_sublist
    -- The equal texts are still there in their order, and there are no others.
    have hfilter : (o.equalTo a (o.equalTo a texts)).Sublist (o.equalTo a (o.sort texts)) :=
      hsublist.filter _
    rw [equalTo_equalTo] at hfilter
    exact (hfilter.eq_of_length (hperm.filter _).length_eq.symm).symm

/-! ## Stable sorts -/

/-- Of two lists in order with the same equal texts, neither starts above the other. -/
theorem compare_heads_nonpos {a b : String} {as bs : List String}
    (has : (a :: as).Pairwise fun a b => o.compare a b ≤ 0)
    (hstable : ∀ c, o.equalTo c (a :: as) = o.equalTo c (b :: bs)) : o.compare a b ≤ 0 := by
  have hb : b ∈ o.equalTo b (a :: as) := by
    rw [hstable b]
    exact mem_equalTo.mpr ⟨List.mem_cons_self, compare_self b⟩
  rcases List.mem_cons.mp (mem_equalTo.mp hb).1 with rfl | hmem
  · exact (compare_self b).le
  · exact (List.pairwise_cons.mp has).1 b hmem

/-- **The order of a list and that of its equal texts determine it.** -/
theorem eq_of_equalTo_eq {as bs : List String} (has : as.Pairwise fun a b => o.compare a b ≤ 0)
    (hbs : bs.Pairwise fun a b => o.compare a b ≤ 0)
    (hstable : ∀ c, o.equalTo c as = o.equalTo c bs) : as = bs := by
  induction as generalizing bs with
  | nil =>
    cases bs with
    | nil => rfl
    | cons b bs => simpa [equalTo_cons, compare_self, equalTo] using hstable b
  | cons a as ih =>
    cases bs with
    | nil => simpa [equalTo_cons, compare_self, equalTo] using hstable a
    | cons b bs =>
      have hab := compare_antisymm (compare_heads_nonpos has hstable)
        (compare_heads_nonpos hbs fun c => (hstable c).symm)
      -- The heads are the first of their equals in both lists.
      have hhead := hstable a
      rw [equalTo_cons, equalTo_cons, if_pos (compare_self a), if_pos hab] at hhead
      obtain ⟨rfl, -⟩ := List.cons_eq_cons.mp hhead
      have htails : ∀ c, o.equalTo c as = o.equalTo c bs := by
        intro c
        have hc := hstable c
        rw [equalTo_cons, equalTo_cons] at hc
        split at hc
        · exact (List.cons_eq_cons.mp hc).2
        · exact hc
      exact congrArg (a :: ·)
        (ih (List.pairwise_cons.mp has).2 (List.pairwise_cons.mp hbs).2 htails)

/-- **Sorting version texts is consistent.** The order is a total preorder, for any delimiter or
none and with or without regard to case, and the sorted list is the one stable sort of the texts. -/
theorem isStableSort_iff (o : VersionOrder) :
    Std.TransCmp o.ordering ∧
      ∀ texts sorted, o.IsStableSort texts sorted ↔ sorted = o.sort texts := by
  refine ⟨transCmp_ordering o, fun texts sorted => ⟨fun h => ?_, fun h => ?_⟩⟩
  · have hsort := sort_isStableSort o texts
    exact eq_of_equalTo_eq h.increasing hsort.increasing
      fun c => (h.stable c).trans (hsort.stable c).symm
  · rw [h]
    exact sort_isStableSort o texts

example : (named '@').sort ["B@2", "A", "A@x@1.0", "B@1.10", "A@1", "B@1.9"] =
    ["A", "A@x@1.0", "A@1", "B@1.9", "B@1.10", "B@2"] := by cbv

end VersionOrder

end PackQuery
