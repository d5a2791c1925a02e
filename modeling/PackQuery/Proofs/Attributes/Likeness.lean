import Mathlib.Data.List.Perm.Subperm
import Mathlib.Tactic.SplitIfs
import PackQuery.Attributes.Matching

/-!
# Alike attribute sets

Whether two sets are alike is asked from one side: they have equally many attributes, and the first
set satisfies the second one as a request. It is the same question from the other side.

**Names** (`keys_eq_of_subset`). A set that satisfies another one has all its names. The names of a
set are different, so where there are equally many they are the same names.

**Values** (`valuesAgree_comm`). Either of two values may be the pattern, and the ids of two vendors
stand for one vendor whichever comes first.

Main result: `alike_comm`.
-/

namespace PackQuery

/-! ## Names -/

/-- **Equally many names, all of one set among those of the other, are the same names.** -/
theorem Dict.keys_eq_of_subset {d e : Dict String} (hsize : d.size = e.size)
    (hsub : e.keys ⊆ d.keys) : d.keys = e.keys := by
  have hlength : d.keys.length = e.keys.length := by
    rw [Dict.length_keys, Dict.length_keys, hsize]
  have hperm := (List.subperm_of_subset e.nodup_keys hsub).perm_of_length_le (Nat.le_of_eq hlength)
  refine hperm.symm.eq_of_pairwise (fun a b _ _ hab hba => ?_) d.pairwise_keys e.pairwise_keys
  exact absurd hba (String.lt_asymm hab)

/-! ## Values -/

theorem Wildcard.agree_comm (a b : String) : agree a b = agree b a := by
  unfold agree
  simp only [eq_comm (a := b) (b := a), or_comm (a := b = ""),
    Bool.or_comm (isPattern b && fits b a)]

namespace Vendor.Registry

theorem sameId_comm (r : Registry) (a b : String) : r.sameId a b = r.sameId b a := by
  unfold sameId
  rw [Bool.eq_iff_iff]
  simp only [Bool.or_eq_true, decide_eq_true_eq]
  exact or_congr eq_comm eq_comm

/-- Which vendor comes first does not matter, however the two are spelled. -/
theorem same_comm (r : Registry) (a b : String) : r.same a b = r.same b a := by
  have hids : (idPart a ≠ "" ∧ idPart b ≠ "" ∧ r.sameId (idPart a) (idPart b) = true) ↔
      (idPart b ≠ "" ∧ idPart a ≠ "" ∧ r.sameId (idPart b) (idPart a) = true) := by
    rw [sameId_comm]
    exact and_left_comm
  unfold same
  simp only [eq_comm (a := b) (b := a), hids, Wildcard.agree_comm (namePart (r.full a))]

end Vendor.Registry

namespace AttributeSet

variable {vendors : Vendor.Registry}

/-- Whether two values of an attribute agree: as vendors, or as wildcard patterns. -/
def valuesAgree (vendors : Vendor.Registry) (name a b : String) : Bool :=
  if Key.isVendor name then vendors.same a b else Wildcard.agree a b

theorem valuesAgree_comm (vendors : Vendor.Registry) (name a b : String) :
    valuesAgree vendors name a b = valuesAgree vendors name b a := by
  unfold valuesAgree
  rw [vendors.same_comm, Wildcard.agree_comm]

/-! ## Sets -/

/-- An entry satisfies a request if it has a value that agrees for each attribute. -/
theorem satisfies_iff {entry required : AttributeSet} :
    entry.satisfies vendors required = true ↔
      ∀ name wanted, required.get? name = some wanted →
        ∃ stored, entry.get? name = some stored ∧
          valuesAgree vendors name stored wanted = true := by
  simp only [satisfies, List.all_eq_true, Prod.forall, mem_pairs_iff]
  refine forall_congr' fun name => forall_congr' fun wanted => imp_congr_right fun _ => ?_
  cases entry.get? name with
  | none => simp
  | some stored => simp [valuesAgree]

theorem keys_subset_of_satisfies {entry required : AttributeSet}
    (h : entry.satisfies vendors required = true) :
    required.attributes.keys ⊆ entry.attributes.keys := by
  intro name hname
  obtain ⟨wanted, hwanted⟩ := Dict.mem_keys_iff.mp hname
  obtain ⟨stored, hstored, -⟩ := satisfies_iff.mp h name wanted hwanted
  exact Dict.mem_keys_iff.mpr ⟨stored, hstored⟩

/-- **Alike sets have the same names, and under each of them values that agree.** -/
theorem alike_iff {s t : AttributeSet} :
    s.alike vendors t = true ↔
      s.attributes.keys = t.attributes.keys ∧
        ∀ name a b, s.get? name = some a → t.get? name = some b →
          valuesAgree vendors name a b = true := by
  unfold alike
  rw [Bool.and_eq_true, beq_iff_eq]
  constructor
  · rintro ⟨hsize, hsat⟩
    refine ⟨Dict.keys_eq_of_subset hsize (keys_subset_of_satisfies hsat), fun name a b ha hb => ?_⟩
    obtain ⟨stored, hstored, hagree⟩ := satisfies_iff.mp hsat name b hb
    rw [ha] at hstored
    exact Option.some.inj hstored ▸ hagree
  · rintro ⟨hkeys, hvalues⟩
    refine ⟨?_, satisfies_iff.mpr fun name wanted hwanted => ?_⟩
    · show s.attributes.size = t.attributes.size
      rw [← Dict.length_keys, hkeys, Dict.length_keys]
    · have hname : name ∈ s.attributes.keys := hkeys ▸ Dict.mem_keys_iff.mpr ⟨wanted, hwanted⟩
      obtain ⟨stored, hstored⟩ := Dict.mem_keys_iff.mp hname
      exact ⟨stored, hstored, hvalues name stored wanted hstored hwanted⟩

theorem alike_symm {s t : AttributeSet} (h : s.alike vendors t = true) :
    t.alike vendors s = true := by
  obtain ⟨hkeys, hvalues⟩ := alike_iff.mp h
  refine alike_iff.mpr ⟨hkeys.symm, fun name b a hb ha => ?_⟩
  rw [valuesAgree_comm]
  exact hvalues name a b ha hb

/-- **Being alike does not depend on the side from which it is asked.** Both answers are whether the
sets have the same names, and under each of them values that agree. -/
theorem alike_comm (vendors : Vendor.Registry) (s t : AttributeSet) :
    s.alike vendors t = t.alike vendors s ∧
      (s.alike vendors t = true ↔
        s.attributes.keys = t.attributes.keys ∧
          ∀ name a b, s.get? name = some a → t.get? name = some b →
            valuesAgree vendors name a b = true) :=
  ⟨Bool.eq_iff_iff.mpr ⟨alike_symm, alike_symm⟩, alike_iff⟩

end AttributeSet

end PackQuery
