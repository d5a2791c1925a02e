import Mathlib.Data.List.Basic
import Mathlib.Tactic.ByContra
import PackQuery.Proofs.Attributes.Storage

/-!
# Reported changes

Storing and taking away report whether something changed. Callers go by the report, so it has to
say what a comparison of the attributes before and after would say.

**The reports** (`Reports`). No change goes unreported: without a report the attributes are as
before. The other way round there is one exception, the empty value of a missing attribute, which
is not stored and reported all the same. Such an update is *idle* (`Update.IsIdle`).

**Many attributes** (`foldl_addPair_report`). A report made on the way stays true in the end,
because the names are different and so no later attribute undoes a change. An attribute is reported
if it differs from the one that was there before the first of them was added.

**All updates** (`update_report`). One lemma for each operation gives its reports. An update that
passes no empty value is never idle, so its report is exact.
-/

namespace PackQuery.AttributeSet

variable {s other : AttributeSet}

/-! ## Updates -/

/-- What stores attributes or takes them away. -/
inductive Update where
  | add (name value : String) (keepEmpty : Bool)
  | set (name value : String)
  | remove (name : String)
  | eraseMatching (pattern : String)
  | addAll (other : AttributeSet) (replace : Bool)
  | setAll (other : AttributeSet)

/-- The set after an update, and whether a change is reported. -/
def update (s : AttributeSet) : Update → AttributeSet × Bool
  | .add name value keepEmpty => s.add name value keepEmpty
  | .set name value => s.set name value
  | .remove name => s.remove name
  | .eraseMatching pattern => s.eraseMatching pattern
  | .addAll other replace => s.addAll other replace
  | .setAll other => s.setAll other

/-- Whether an empty value is to be added, which may mean that an attribute is taken away. -/
def Update.PassesEmpty : Update → Prop
  | .add _ value _ => value = ""
  | .addAll other _ => ∃ p ∈ other.pairs, p.2 = ""
  | _ => False

/-- Whether an update adds an empty value that is not stored because its name is new. An empty set
takes over all attributes as they are. -/
def Update.IsIdle (s : AttributeSet) : Update → Prop
  | .add name value keepEmpty =>
    name ≠ "" ∧ value = "" ∧ keepEmpty = false ∧ s.get? name = none
  | .addAll other _ =>
    s.isEmpty = false ∧ ∃ p ∈ other.pairs, p.1 ≠ "" ∧ p.2 = "" ∧ s.get? p.1 = none
  | _ => False

theorem Update.IsIdle.passesEmpty {u : Update} (h : u.IsIdle s) : u.PassesEmpty := by
  cases u with
  | add name value keepEmpty => exact h.2.1
  | addAll other replace =>
    obtain ⟨-, p, hp, -, hvalue, -⟩ := h
    exact ⟨p, hp, hvalue⟩
  | set name value | remove name | eraseMatching pattern | setAll other => exact h

/-- The result of an update that is idle or not: the tag is kept, and what is reported is a change
of the attributes or the idle update. -/
structure Reports (s : AttributeSet) (idle : Prop) (result : AttributeSet × Bool) : Prop where
  tag_eq : result.1.tag = s.tag
  report_iff : result.2 = true ↔ result.1.attributes ≠ s.attributes ∨ idle

theorem Reports.eq_of_report {idle : Prop} {result : AttributeSet × Bool}
    (h : Reports s idle result) (hreport : result.2 = false) : result.1 = s := by
  have hattributes : result.1.attributes = s.attributes := by
    by_contra hne
    rw [h.report_iff.mpr (Or.inl hne)] at hreport
    cases hreport
  exact eq_of_get?_eq h.tag_eq fun name => congrArg (·.get? name) hattributes

/-! ## One attribute -/

theorem add_report_iff {name value : String} {keepEmpty : Bool} :
    (s.add name value keepEmpty).2 = true ↔ name ≠ "" ∧ s.get? name ≠ some value := by
  unfold add
  split_ifs with hempty hsame <;> simp_all

theorem reports_add (s : AttributeSet) (name value : String) (keepEmpty : Bool) :
    Reports s ((Update.add name value keepEmpty).IsIdle s) (s.add name value keepEmpty) := by
  unfold add
  split_ifs with hempty hsame hstore
  · exact ⟨rfl, iff_of_false nofun fun h => h.elim (· rfl) fun hidle => hidle.1 hempty⟩
  · refine ⟨rfl, iff_of_false nofun fun h => h.elim (· rfl) fun hidle => ?_⟩
    rw [hidle.2.2.2] at hsame
    cases hsame
  · exact ⟨rfl, iff_of_true rfl (Or.inl (mt Dict.insert_eq_self_iff.mp hsame))⟩
  · refine ⟨rfl, iff_of_true rfl ?_⟩
    rw [Bool.or_eq_true, not_or, Bool.not_eq_true, decide_eq_true_iff, not_not] at hstore
    by_cases hnew : s.get? name = none
    · exact Or.inr ⟨hempty, hstore.2, hstore.1, hnew⟩
    · exact Or.inl (mt Dict.erase_eq_self_iff.mp hnew)

theorem reports_set (s : AttributeSet) (name value : String) :
    Reports s ((Update.set name value).IsIdle s) (s.set name value) where
  tag_eq := (reports_add s name value true).tag_eq
  report_iff := by
    refine (reports_add s name value true).report_iff.trans (or_congr_right ?_)
    exact iff_of_false (fun hidle => nomatch hidle.2.2.1) id

theorem reports_remove (s : AttributeSet) (name : String) :
    Reports s ((Update.remove name).IsIdle s) (s.remove name) where
  tag_eq := rfl
  report_iff := by
    refine Iff.trans ?_ (or_iff_left id).symm
    show (s.get? name).isSome = true ↔ s.attributes.erase name ≠ s.attributes
    rw [Ne, Dict.erase_eq_self_iff, Option.isSome_iff_ne_none]
    rfl

theorem reports_eraseMatching (s : AttributeSet) (pattern : String) :
    Reports s ((Update.eraseMatching pattern).IsIdle s) (s.eraseMatching pattern) where
  tag_eq := rfl
  report_iff := by
    refine Iff.trans ?_ (or_iff_left id).symm
    exact decide_eq_true_iff.trans (not_congr Dict.size_filter_eq_iff)

theorem reports_setAll (s other : AttributeSet) :
    Reports s ((Update.setAll other).IsIdle s) (s.setAll other) := by
  unfold setAll
  split_ifs with hsame
  · exact ⟨rfl, iff_of_false nofun fun h => h.elim (· rfl) id⟩
  · exact ⟨rfl, iff_of_true rfl (Or.inl (Ne.symm hsame))⟩

/-! ## Many attributes -/

theorem addPair_report_iff {replace : Bool} {acc : AttributeSet × Bool} {p : String × String} :
    (addPair replace acc p).2 = true ↔ acc.2 = true ∨
      (p.1 ≠ "" ∧ acc.1.get? p.1 ≠ some p.2 ∧ (replace = true ∨ acc.1.contains p.1 = false)) := by
  unfold addPair
  split_ifs with hadd
  · rw [Bool.or_eq_true, Bool.not_eq_true'] at hadd
    rw [Bool.or_eq_true, add_report_iff]
    simp only [hadd, and_true]
  · rw [Bool.or_eq_true, Bool.not_eq_true'] at hadd
    simp only [hadd, and_false, or_false]

/-- **What is reported on the way.** The attributes that are compared are those of a set that has
not met any of the names. -/
theorem foldl_addPair_report (replace : Bool) {pairs : List (String × String)}
    (h : pairs.Pairwise fun p q => p.1 < q.1) (acc : AttributeSet × Bool) (s : AttributeSet)
    (hacc : ∀ p ∈ pairs, acc.1.get? p.1 = s.get? p.1) :
    (pairs.foldl (addPair replace) acc).2 = true ↔ acc.2 = true ∨ ∃ p ∈ pairs,
      p.1 ≠ "" ∧ s.get? p.1 ≠ some p.2 ∧ (replace = true ∨ s.contains p.1 = false) := by
  induction pairs generalizing acc with
  | nil => simp
  | cons p rest ih =>
    obtain ⟨hhead, htail⟩ := List.pairwise_cons.mp h
    obtain ⟨hp, hrest⟩ := List.forall_mem_cons.mp hacc
    have hstep : ∀ q ∈ rest, (addPair replace acc p).1.get? q.1 = s.get? q.1 := by
      intro q hq
      rw [addPair_fst, ← hrest q hq]
      split_ifs
      · rw [get?_withAttribute, if_neg fun hn => String.ne_of_lt (hhead q hq) hn.1.symm]
      · rfl
    have hcontains : acc.1.contains p.1 = s.contains p.1 := congrArg Option.isSome hp
    rw [List.foldl_cons, ih htail _ hstep, addPair_report_iff, hp, hcontains, or_assoc,
      List.exists_mem_cons_iff]

theorem addedTo_eq_self_iff {old : Option String} {value : String} :
    addedTo old value = old ↔ old = some value ∨ value = "" ∧ old = none := by
  unfold addedTo
  split_ifs with hvalue
  · cases old <;> simp [hvalue, Option.filter]
  · simp [hvalue, eq_comm]

theorem attributes_ne_iff {t : AttributeSet} :
    t.attributes ≠ s.attributes ↔ ∃ name, t.get? name ≠ s.get? name := by
  rw [← not_forall]
  exact not_congr ⟨fun h name => congrArg (·.get? name) h, Dict.ext_get?⟩

/-- **What changes in the end.** An attribute that may be added changes the set unless it is there
already or is the empty value of a missing one. -/
theorem addEach_attributes_ne_iff (s other : AttributeSet) (replace : Bool) :
    (s.addEach other replace).attributes ≠ s.attributes ↔ ∃ p ∈ other.pairs,
      (p.1 ≠ "" ∧ s.get? p.1 ≠ some p.2 ∧ (replace = true ∨ s.contains p.1 = false)) ∧
        ¬(p.2 = "" ∧ s.get? p.1 = none) := by
  rw [attributes_ne_iff]
  constructor
  · rintro ⟨name, hne⟩
    rw [get?_addEach] at hne
    split_ifs at hne with hadd
    · cases hvalue : other.get? name with
      | none =>
        rw [hvalue] at hne
        exact absurd rfl hne
      | some value =>
        rw [hvalue] at hne
        obtain ⟨hsame, hidle⟩ := not_or.mp (mt addedTo_eq_self_iff.mpr hne)
        exact ⟨(name, value), mem_pairs_iff.mpr hvalue, ⟨hadd.1, hsame, hadd.2⟩, hidle⟩
    · exact absurd rfl hne
  · rintro ⟨⟨name, value⟩, hp, ⟨hempty, hsame, hadd⟩, hidle⟩
    refine ⟨name, ?_⟩
    rw [get?_addEach, if_pos ⟨hempty, hadd⟩, mem_pairs_iff.mp hp]
    exact mt addedTo_eq_self_iff.mp (not_or.mpr ⟨hsame, hidle⟩)

/-- A set that is not empty reports the attributes that change it and those that are idle. -/
theorem reports_addAll_of_not_isEmpty (hs : s.isEmpty = false) (hother : ¬other.isEmpty = true)
    (replace : Bool) :
    Reports s ((Update.addAll other replace).IsIdle s) (s.addAll other replace) where
  tag_eq := by
    rw [addAll_of_not_isEmpty hs]
    exact tag_withPairs s _
  report_iff := by
    have hreport := foldl_addPair_report replace other.attributes.sorted (s, false) s fun _ _ => rfl
    rw [addAll_of_not_isEmpty hs, addEach_attributes_ne_iff, addAll, if_neg hother,
      if_neg (by rw [hs]; exact nofun)]
    refine (hreport.trans (or_iff_right nofun)).trans ⟨?_, ?_⟩
    · rintro ⟨p, hp, hadd⟩
      by_cases hidle : p.2 = "" ∧ s.get? p.1 = none
      · exact Or.inr ⟨hs, p, hp, hadd.1, hidle⟩
      · exact Or.inl ⟨p, hp, hadd, hidle⟩
    · rintro (⟨p, hp, hadd, -⟩ | ⟨-, p, hp, hempty, -, hnew⟩)
      · exact ⟨p, hp, hadd⟩
      · have hcontains : s.contains p.1 = false := by
          show (s.get? p.1).isSome = false
          rw [hnew]
          rfl
        exact ⟨p, hp, hempty, by rw [hnew]; exact nofun, Or.inr hcontains⟩

theorem reports_addAll (s other : AttributeSet) (replace : Bool) :
    Reports s ((Update.addAll other replace).IsIdle s) (s.addAll other replace) := by
  by_cases hother : other.isEmpty = true
  · rw [addAll, if_pos hother]
    refine ⟨rfl, iff_of_false nofun ?_⟩
    rintro (hne | ⟨-, p, hp, -⟩)
    · exact hne rfl
    · rw [pairs, List.isEmpty_iff.mp hother] at hp
      cases hp
  cases hs : s.isEmpty with
  | false => exact reports_addAll_of_not_isEmpty hs hother replace
  | true =>
    have hne : other.attributes ≠ s.attributes := fun he => hother (by rw [isEmpty, he]; exact hs)
    rw [addAll, if_neg hother, if_pos hs]
    exact ⟨rfl, iff_of_true rfl (Or.inl hne)⟩

/-! ## All updates -/

theorem reports_update (s : AttributeSet) (u : Update) : Reports s (u.IsIdle s) (s.update u) := by
  cases u with
  | add name value keepEmpty => exact reports_add s name value keepEmpty
  | set name value => exact reports_set s name value
  | remove name => exact reports_remove s name
  | eraseMatching pattern => exact reports_eraseMatching s pattern
  | addAll other replace => exact reports_addAll s other replace
  | setAll other => exact reports_setAll s other

/-- **Reports of changes.** Without a report the set is as before. A report means that the
attributes have changed, or else that the update is idle, which takes an empty value. The tag never
changes. -/
theorem update_report (s : AttributeSet) (u : Update) :
    ((s.update u).2 = false → (s.update u).1 = s) ∧
      (¬u.PassesEmpty → ((s.update u).2 = true ↔ (s.update u).1.attributes ≠ s.attributes)) ∧
      ((s.update u).2 = true ↔ (s.update u).1.attributes ≠ s.attributes ∨ u.IsIdle s) ∧
      (s.update u).1.tag = s.tag := by
  have hreports := reports_update s u
  refine ⟨hreports.eq_of_report, fun hvalues => ?_, hreports.report_iff, hreports.tag_eq⟩
  have hidle : ¬u.IsIdle s := fun h => hvalues h.passesEmpty
  rw [hreports.report_iff, or_iff_left hidle]

/-- A set that gets one attribute more and another one anew, and the same again. -/
theorem update_report_device :
    let device := ofPairs [("Cclass", "Device"), ("Cgroup", "Startup")]
    let both := Update.addAll (ofPairs [("Cclass", "CMSIS"), ("Cversion", "1.0.0")]) true
    (¬both.PassesEmpty ∧ (device.update both).1.attributes ≠ device.attributes) ∧
      ((device.update both).1.update both).2 = false ∧
      ((device.update both).1.update both).1 = (device.update both).1 := by
  intro device both
  have hvalues : ¬both.PassesEmpty := by
    show ¬∃ p ∈ (ofPairs [("Cclass", "CMSIS"), ("Cversion", "1.0.0")]).pairs, p.2 = ""
    decide +kernel
  have hreport : (device.update both).2 = true := by decide +kernel
  have hagain : ((device.update both).1.update both).2 = false := by decide +kernel
  exact ⟨⟨hvalues, ((update_report device both).2.1 hvalues).mp hreport⟩, hagain,
    (update_report _ both).1 hagain⟩

end PackQuery.AttributeSet
