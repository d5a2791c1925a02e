import Mathlib.Tactic.SplitIfs
import PackQuery.Attributes.Basic

/-!
# Storing attributes

What a set answers after attributes have been stored in it.

**One attribute** (`get?_withAttribute`). An empty name is never stored, and an empty value takes
the attribute away unless it is there already. No other attribute changes.

**Many attributes** (`addEach`). The names of a set are different, so when its attributes are added
one after another, each name is met once. It does not matter whether names are looked up before the
first one is added or just before their own turn (`foldl_addPair`).

**All at once** (`addAll_eq_addEach_iff`). A set that is not empty stores the attributes of another
one in this way. An empty set takes them over as they are, so it gets another result exactly if
there is an empty name or an empty value among them.
-/

namespace PackQuery.AttributeSet

variable {s other : AttributeSet}

/-! ## One attribute -/

theorem tag_withAttribute (s : AttributeSet) (name value : String) :
    (s.withAttribute name value).tag = s.tag := by
  unfold withAttribute add
  split_ifs <;> rfl

/-- What a value becomes when another one is added over it: an empty one takes it away, unless it
is empty itself. -/
def addedTo (old : Option String) (value : String) : Option String :=
  if value = "" then old.filter (· = "") else some value

theorem addedTo_same (value : String) : addedTo (some value) value = some value := by
  unfold addedTo
  split_ifs with h
  · rw [h]
    rfl
  · rfl

theorem addedTo_empty {old : Option String} (h : old ≠ some "") : addedTo old "" = none := by
  rw [addedTo, if_pos rfl, Option.filter_eq_none_iff]
  intro value hold hvalue
  exact h (of_decide_eq_true hvalue ▸ hold)

theorem withAttribute_empty_name (s : AttributeSet) (value : String) :
    s.withAttribute "" value = s := rfl

theorem withAttribute_of_ne (s : AttributeSet) {name : String} (h : name ≠ "") (value : String) :
    s.withAttribute name value =
      if s.get? name = some value then s
      else if value = "" then { s with attributes := s.attributes.erase name }
      else { s with attributes := s.attributes.insert name value } := by
  unfold withAttribute add
  rw [if_neg h]
  by_cases hvalue : value = ""
  · simp only [hvalue, ne_eq, not_true_eq_false, decide_false, Bool.or_self,
      Bool.false_eq_true, if_false, if_true]
    split_ifs <;> rfl
  · simp only [hvalue, ne_eq, not_false_eq_true, decide_true, Bool.or_true, if_true, if_false]
    split_ifs <;> rfl

theorem get?_withAttribute (s : AttributeSet) (name value name' : String) :
    (s.withAttribute name value).get? name' =
      if name' = name ∧ name ≠ "" then addedTo (s.get? name) value else s.get? name' := by
  by_cases hempty : name = ""
  · rw [if_neg fun h => h.2 hempty, hempty, withAttribute_empty_name]
  by_cases hname : name' = name
  · rw [if_pos ⟨hname, hempty⟩, hname, withAttribute_of_ne s hempty]
    split_ifs with hsame hvalue
    · rw [hsame, addedTo_same]
    · rw [hvalue, addedTo_empty (hvalue ▸ hsame)]
      exact (Dict.get?_erase s.attributes name name).trans (if_pos rfl)
    · rw [addedTo, if_neg hvalue]
      exact (Dict.get?_insert s.attributes name name value).trans (if_pos rfl)
  · rw [if_neg fun h => hname h.1, withAttribute_of_ne s hempty]
    split_ifs
    · rfl
    · exact (Dict.get?_erase s.attributes name name').trans (if_neg hname)
    · exact (Dict.get?_insert s.attributes name name' value).trans (if_neg hname)

theorem contains_withAttribute_of_ne (s : AttributeSet) {name name' : String} (h : name' ≠ name)
    (value : String) : (s.withAttribute name value).contains name' = s.contains name' := by
  show ((s.withAttribute name value).get? name').isSome = (s.get? name').isSome
  rw [get?_withAttribute, if_neg fun hn => h hn.1]

/-! ## Many attributes -/

/-- The set with some pairs added one after another. -/
def withPairs (s : AttributeSet) (pairs : List (String × String)) : AttributeSet :=
  pairs.foldl (fun acc p => acc.withAttribute p.1 p.2) s

theorem tag_withPairs (s : AttributeSet) (pairs : List (String × String)) :
    (s.withPairs pairs).tag = s.tag := by
  induction pairs generalizing s with
  | nil => rfl
  | cons p rest ih => exact (ih _).trans (tag_withAttribute s p.1 p.2)

/-- Each name is met once at most, so it answers what its own pair leaves. -/
theorem get?_withPairs (s : AttributeSet) {pairs : List (String × String)}
    (h : pairs.Pairwise fun p q => p.1 < q.1) (name : String) :
    (s.withPairs pairs).get? name =
      if name = "" then s.get? name
      else (Dict.find? name pairs).elim (s.get? name) (addedTo (s.get? name)) := by
  induction pairs generalizing s with
  | nil => simp [withPairs, Dict.find?]
  | cons p rest ih =>
    obtain ⟨hhead, htail⟩ := List.pairwise_cons.mp h
    refine (ih (s.withAttribute p.1 p.2) htail).trans ?_
    by_cases hempty : name = ""
    · rw [if_pos hempty, if_pos hempty, get?_withAttribute,
        if_neg fun hn => hn.2 (hn.1.symm.trans hempty)]
    rw [if_neg hempty, if_neg hempty, get?_withAttribute, Dict.find?]
    by_cases hname : name = p.1
    · have hlater : Dict.find? name rest = none :=
        Dict.find?_eq_none_of_lt fun q hq => hname ▸ hhead q hq
      rw [if_pos ⟨hname, hname ▸ hempty⟩, if_pos hname, hlater, hname]
      rfl
    · rw [if_neg fun hn => hname hn.1, if_neg hname]

/-- The set with the attributes of another one added one after another, those that are there
already only with `replace`. -/
def addEach (s other : AttributeSet) (replace : Bool) : AttributeSet :=
  s.withPairs (other.pairs.filter fun p => replace || !s.contains p.1)

theorem get?_addEach (s other : AttributeSet) (replace : Bool) (name : String) :
    (s.addEach other replace).get? name =
      if name ≠ "" ∧ (replace = true ∨ s.contains name = false) then
        (other.get? name).elim (s.get? name) (addedTo (s.get? name))
      else s.get? name := by
  have hfind : Dict.find? name (other.pairs.filter fun p => replace || !s.contains p.1) =
      (other.get? name).filter fun _ => replace || !s.contains name :=
    @Dict.find?_filter _ (fun name _ => replace || !s.contains name) other.pairs name
      other.attributes.sorted
  have hsorted : (other.pairs.filter fun p => replace || !s.contains p.1).Pairwise
      fun p q => p.1 < q.1 := other.attributes.sorted.sublist List.filter_sublist
  rw [addEach, get?_withPairs s hsorted, hfind]
  by_cases hempty : name = ""
  · rw [if_pos hempty, if_neg fun h => h.1 hempty]
  rw [if_neg hempty]
  by_cases hkeep : (replace || !s.contains name) = true
  · rw [if_pos ⟨hempty, by simpa using hkeep⟩]
    cases other.get? name <;> simp [Option.filter, hkeep]
  · rw [if_neg fun h => hkeep (by simpa using h.2)]
    cases other.get? name <;> simp [Option.filter, hkeep]

theorem addPair_fst (replace : Bool) (acc : AttributeSet × Bool) (p : String × String) :
    (addPair replace acc p).1 =
      if replace || !acc.1.contains p.1 then acc.1.withAttribute p.1 p.2 else acc.1 := by
  unfold addPair
  split_ifs <;> rfl

theorem foldl_addPair (replace : Bool) {pairs : List (String × String)}
    (h : pairs.Pairwise fun p q => p.1 < q.1) (acc : AttributeSet × Bool) (s : AttributeSet)
    (hacc : ∀ p ∈ pairs, acc.1.contains p.1 = s.contains p.1) :
    (pairs.foldl (addPair replace) acc).1 =
      acc.1.withPairs (pairs.filter fun p => replace || !s.contains p.1) := by
  induction pairs generalizing acc with
  | nil => rfl
  | cons p rest ih =>
    obtain ⟨hhead, htail⟩ := List.pairwise_cons.mp h
    obtain ⟨hp, hrest⟩ := List.forall_mem_cons.mp hacc
    have hstep : ∀ q ∈ rest, (addPair replace acc p).1.contains q.1 = s.contains q.1 := by
      intro q hq
      rw [addPair_fst, ← hrest q hq]
      split_ifs
      · exact contains_withAttribute_of_ne acc.1 (String.ne_of_lt (hhead q hq)).symm p.2
      · rfl
    rw [List.foldl_cons, ih htail _ hstep, addPair_fst, hp, List.filter_cons]
    split_ifs <;> rfl

/-! ## All at once -/

theorem attributes_eq_empty (hs : s.isEmpty = true) : s.attributes = .empty := by
  apply Dict.ext_get?
  intro name
  show Dict.find? name s.attributes.entries = none
  rw [List.isEmpty_iff.mp hs]
  rfl

theorem addAll_of_not_isEmpty (hs : s.isEmpty = false) (other : AttributeSet) (replace : Bool) :
    (s.addAll other replace).1 = s.addEach other replace := by
  unfold addAll
  split_ifs with hother hempty
  · rw [addEach, pairs, List.isEmpty_iff.mp hother]
    rfl
  · rw [hs] at hempty
    cases hempty
  · exact foldl_addPair replace other.attributes.sorted (s, false) s fun _ _ => rfl

/-- Whether a pair is stored in an empty set when it is added. -/
def isStorable (name value : String) : Bool := name ≠ "" && value ≠ ""

theorem eq_of_get?_eq {s t : AttributeSet} (htag : s.tag = t.tag)
    (h : ∀ name, s.get? name = t.get? name) : s = t := by
  cases s
  cases t
  cases htag
  cases Dict.ext_get? h
  rfl

theorem addEach_of_isEmpty (hs : s.isEmpty = true) (other : AttributeSet) (replace : Bool) :
    s.addEach other replace = { s with attributes := other.attributes.filter isStorable } := by
  refine eq_of_get?_eq (tag_withPairs s _) fun name => ?_
  have hnone : s.get? name = none := by
    rw [get?, attributes_eq_empty hs, Dict.get?_empty]
  have hcontains : s.contains name = false := by
    show (s.get? name).isSome = false
    rw [hnone]
    rfl
  rw [get?_addEach, hnone, hcontains]
  show _ = (other.attributes.filter isStorable).get? name
  rw [Dict.get?_filter, ← get?]
  by_cases hempty : name = ""
  · cases other.get? name <;> simp [hempty, isStorable, Option.filter]
  · cases other.get? name with
    | none => simp
    | some value =>
      by_cases hvalue : value = "" <;>
        simp [hempty, hvalue, isStorable, addedTo, Option.filter]

theorem addAll_of_isEmpty (hs : s.isEmpty = true) (other : AttributeSet) (replace : Bool) :
    (s.addAll other replace).1 = { s with attributes := other.attributes } := by
  unfold addAll
  split_ifs with hother
  · rw [attributes_eq_empty hother, ← attributes_eq_empty hs]
  · rfl

/-- **Adding all at once and one by one.** The results are the same unless the set is empty and the
other one has an empty name or an empty value: an empty set takes over all pairs, and of these only
the ones with a name and a value would be stored one by one. -/
theorem addAll_eq_addEach_iff (s other : AttributeSet) (replace : Bool) :
    ((s.addAll other replace).1 = s.addEach other replace ↔
        (s.isEmpty = true → ∀ name value, other.get? name = some value →
          name ≠ "" ∧ value ≠ "")) ∧
      (s.isEmpty = true →
        (s.addAll other replace).1.attributes = other.attributes ∧
          (s.addEach other replace).attributes = other.attributes.filter isStorable) := by
  cases hs : s.isEmpty with
  | false => exact ⟨iff_of_true (addAll_of_not_isEmpty hs other replace) nofun, nofun⟩
  | true =>
    rw [addAll_of_isEmpty hs, addEach_of_isEmpty hs]
    refine ⟨?_, fun _ => ⟨rfl, rfl⟩⟩
    have hstorable : (∀ name value, other.attributes.get? name = some value →
        isStorable name value = true) ↔
        ∀ name value, other.get? name = some value → name ≠ "" ∧ value ≠ "" := by
      simp only [isStorable, Bool.and_eq_true, decide_eq_true_eq, get?]
    rw [AttributeSet.mk.injEq, eq_self, true_and, eq_comm, Dict.filter_eq_self_iff, hstorable]
    exact ⟨fun h _ => h, fun h => h rfl⟩

/-- A set that is not empty, and one with an empty value. -/
theorem addAll_eq_addEach_iff_device :
    (ofPairs [("Cclass", "Device"), ("Cgroup", "Startup")]).isEmpty = false ∧
      ((ofPairs [("Cclass", "Device"), ("Cgroup", "Startup")]).addAll
          (ofPairs [("Cclass", "CMSIS"), ("Cgroup", "")]) true).1 =
        (ofPairs [("Cclass", "Device"), ("Cgroup", "Startup")]).addEach
          (ofPairs [("Cclass", "CMSIS"), ("Cgroup", "")]) true ∧
      ((ofPairs [("Cclass", "Device"), ("Cgroup", "Startup")]).addAll
          (ofPairs [("Cclass", "CMSIS"), ("Cgroup", "")]) true).1 =
        ofPairs [("Cclass", "CMSIS")] := by
  exact ⟨rfl, (addAll_eq_addEach_iff _ _ true).1.mpr nofun, by decide +kernel⟩

/-- An empty set takes over an empty value, with `replace` or without, and an empty name. One by one
neither is stored. -/
theorem addAll_ne_addEach :
    (empty.addAll (ofPairs [("Cgroup", "")]) true).1 ≠
        empty.addEach (ofPairs [("Cgroup", "")]) true ∧
      (empty.addAll (ofPairs [("Cgroup", "")]) false).1 ≠
        empty.addEach (ofPairs [("Cgroup", "")]) false ∧
      (empty.addAll (ofPairs [("", "Startup")]) true).1 ≠
        empty.addEach (ofPairs [("", "Startup")]) true := by
  decide +kernel

end PackQuery.AttributeSet
