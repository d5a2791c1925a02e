import Mathlib.Algebra.GroupWithZero.Nat
import Mathlib.Data.List.Basic
import PackQuery.Catalog

/-!
# Indexes by component id

The index of a catalog is built entry by entry: an id that is known gets the entry at the end of
its list, and a new id comes last.

**Groups** (`IsGrouping`). What an index should be can be said without building it. Its ids are
those of the entries, each once, in the order in which they first occur, and the list of an id is
what a filter by this id leaves of the catalog. There is only one such index (`IsGrouping.unique`).

**One entry** (`IsGrouping.addToIndex`). A grouping of some entries becomes one of these and the
next entry. An id that is known keeps its place, because a first occurrence does not move when
something is put behind it.

**All entries** (`indexById_iff_isGrouping`). Each entry is in the list of its own id and in no
other list, so no entry is lost or doubled.
-/

namespace PackQuery.Catalog

variable {key : Placed → String} {items : List Placed} {groups index : List (String × List Placed)}

/-! ## Groups -/

/-- Lists of items under their keys: the keys in the order in which they first occur, and under
each of them the items that have it, in order. -/
structure IsGrouping (key : Placed → String) (items : List Placed)
    (groups : List (String × List Placed)) : Prop where
  mem_keys_iff : ∀ k, k ∈ groups.map (·.1) ↔ k ∈ items.map key
  keys_ordered : (groups.map (·.1)).Pairwise fun j k =>
    (items.map key).idxOf j < (items.map key).idxOf k
  eq_filter : ∀ g ∈ groups, g.2 = items.filter fun p => key p = g.1

theorem IsGrouping.nodup_keys (h : IsGrouping key items groups) : (groups.map (·.1)).Nodup :=
  h.keys_ordered.imp fun hlt he => absurd (he ▸ hlt) (Nat.lt_irrefl _)

theorem IsGrouping.eq_map (h : IsGrouping key items groups) :
    groups = (groups.map (·.1)).map fun k => (k, items.filter fun p => key p = k) := by
  rw [List.map_map]
  refine (List.map_id groups).symm.trans (List.map_congr_left fun g hg => ?_)
  exact Prod.ext rfl (h.eq_filter g hg)

/-- **There is one grouping of a list.** -/
theorem IsGrouping.unique {groups' : List (String × List Placed)}
    (h : IsGrouping key items groups) (h' : IsGrouping key items groups') : groups = groups' := by
  have hperm : (groups.map (·.1)).Perm (groups'.map (·.1)) :=
    (List.perm_ext_iff_of_nodup h.nodup_keys h'.nodup_keys).mpr fun k =>
      (h.mem_keys_iff k).trans (h'.mem_keys_iff k).symm
  have hkeys : groups.map (·.1) = groups'.map (·.1) :=
    hperm.eq_of_pairwise (fun j k _ _ hjk hkj => absurd hjk (Nat.lt_asymm hkj))
      h.keys_ordered h'.keys_ordered
  rw [h.eq_map, h'.eq_map, hkeys]

/-! ## One entry -/

/-- A new id comes last. -/
theorem addToIndex_of_not_mem {id : String} (h : id ∉ index.map (·.1)) (p : Placed) :
    addToIndex id p index = index ++ [(id, [p])] := by
  induction index with
  | nil => rfl
  | cons g rest ih =>
    obtain ⟨hg, hrest⟩ := not_or.mp (mt List.mem_cons.mpr h)
    rw [addToIndex, if_neg hg, ih hrest, List.cons_append]

/-- An id that is known gets the entry at the end of its list. -/
theorem addToIndex_of_mem {id : String} (hnodup : (index.map (·.1)).Nodup)
    (h : id ∈ index.map (·.1)) (p : Placed) :
    addToIndex id p index =
      index.map fun g => (g.1, if g.1 = id then g.2 ++ [p] else g.2) := by
  induction index with
  | nil => cases h
  | cons g rest ih =>
    obtain ⟨hg, hrest⟩ := List.nodup_cons.mp hnodup
    rw [addToIndex, List.map_cons]
    by_cases hid : id = g.1
    · -- The other lists are those of other ids.
      have hothers : ∀ g' ∈ rest, (g'.1, if g'.1 = id then g'.2 ++ [p] else g'.2) = g' := by
        intro g' hg'
        have hne : g'.1 ≠ id := fun he => hg (List.mem_map.mpr ⟨g', hg', he.trans hid⟩)
        rw [if_neg hne]
      rw [if_pos hid, if_pos hid.symm, List.map_congr_left hothers, List.map_id']
    · rw [if_neg hid, if_neg (Ne.symm hid), ih hrest ((List.mem_cons.mp h).resolve_left hid)]

theorem keys_addToIndex_of_mem {id : String} (hnodup : (index.map (·.1)).Nodup)
    (h : id ∈ index.map (·.1)) (p : Placed) :
    (addToIndex id p index).map (·.1) = index.map (·.1) := by
  rw [addToIndex_of_mem hnodup h, List.map_map]
  rfl

theorem keys_addToIndex_of_not_mem {id : String} (h : id ∉ index.map (·.1)) (p : Placed) :
    (addToIndex id p index).map (·.1) = index.map (·.1) ++ [id] := by
  rw [addToIndex_of_not_mem h, List.map_append]
  rfl

theorem filter_append_singleton (items : List Placed) (p : Placed) (k : String) :
    (items ++ [p]).filter (fun q => key q = k) =
      if k = key p then (items.filter fun q => key q = k) ++ [p]
      else items.filter fun q => key q = k := by
  rw [List.filter_append, List.filter_singleton]
  by_cases hk : k = key p
  · simp [hk]
  · simp [hk, Ne.symm hk]

/-- First occurrences do not move when a key is put behind them. -/
theorem IsGrouping.keys_ordered_append (h : IsGrouping key items groups) (k : String) :
    (groups.map (·.1)).Pairwise fun i j =>
      (items.map key ++ [k]).idxOf i < (items.map key ++ [k]).idxOf j := by
  refine h.keys_ordered.imp_of_mem fun {i j} hi hj hlt => ?_
  rwa [List.idxOf_append_of_mem ((h.mem_keys_iff i).mp hi),
    List.idxOf_append_of_mem ((h.mem_keys_iff j).mp hj)]

theorem IsGrouping.addToIndex_of_mem (h : IsGrouping key items groups) {p : Placed}
    (hid : key p ∈ groups.map (·.1)) :
    IsGrouping key (items ++ [p]) (addToIndex (key p) p groups) where
  mem_keys_iff k := by
    rw [keys_addToIndex_of_mem h.nodup_keys hid, h.mem_keys_iff, List.map_append,
      List.mem_append, List.map_singleton, List.mem_singleton]
    exact ⟨Or.inl, fun hk => hk.elim id fun he => he ▸ (h.mem_keys_iff _).mp hid⟩
  keys_ordered := by
    rw [keys_addToIndex_of_mem h.nodup_keys hid, List.map_append]
    exact h.keys_ordered_append (key p)
  eq_filter := by
    rw [Catalog.addToIndex_of_mem h.nodup_keys hid]
    refine List.forall_mem_map.mpr fun g hg => ?_
    rw [filter_append_singleton, ← h.eq_filter g hg]

theorem IsGrouping.addToIndex_of_not_mem (h : IsGrouping key items groups) {p : Placed}
    (hid : key p ∉ groups.map (·.1)) :
    IsGrouping key (items ++ [p]) (addToIndex (key p) p groups) where
  mem_keys_iff k := by
    rw [keys_addToIndex_of_not_mem hid, List.map_append, List.mem_append, List.mem_append,
      h.mem_keys_iff, List.map_singleton]
  keys_ordered := by
    have hnew : key p ∉ items.map key := mt (h.mem_keys_iff _).mpr hid
    rw [keys_addToIndex_of_not_mem hid, List.map_append]
    refine List.pairwise_append.mpr
      ⟨h.keys_ordered_append (key p), List.pairwise_singleton _ _, fun j hj k hk => ?_⟩
    have hmem := (h.mem_keys_iff j).mp hj
    rw [List.mem_singleton.mp hk, List.idxOf_append_of_mem hmem, List.idxOf_append_of_notMem hnew]
    exact Nat.lt_add_right _ (List.idxOf_lt_length_of_mem hmem)
  eq_filter := by
    rw [Catalog.addToIndex_of_not_mem hid]
    refine List.forall_mem_append.mpr ⟨fun g hg => ?_, List.forall_mem_singleton.mpr ?_⟩
    · have hne : g.1 ≠ key p := fun he => hid (he ▸ List.mem_map_of_mem hg)
      rw [filter_append_singleton, if_neg hne, ← h.eq_filter g hg]
    · have hnone : items.filter (fun q => key q = key p) = [] :=
        List.filter_eq_nil_iff.mpr fun q hq he =>
          mt (h.mem_keys_iff _).mpr hid (of_decide_eq_true he ▸ List.mem_map_of_mem hq)
      rw [filter_append_singleton, if_pos rfl, hnone, List.nil_append]

/-- **A grouping stays one with the next entry.** -/
theorem IsGrouping.addToIndex (h : IsGrouping key items groups) (p : Placed) :
    IsGrouping key (items ++ [p]) (addToIndex (key p) p groups) := by
  by_cases hid : key p ∈ groups.map (·.1)
  · exact h.addToIndex_of_mem hid
  · exact h.addToIndex_of_not_mem hid

/-- **The lists together get the next entry**, under whatever id it comes. -/
theorem flatMap_addToIndex_perm (id : String) (p : Placed) (index : List (String × List Placed)) :
    ((addToIndex id p index).flatMap (·.2)).Perm (index.flatMap (·.2) ++ [p]) := by
  induction index with
  | nil => exact List.Perm.refl _
  | cons g rest ih =>
    rw [addToIndex]
    split
    · show (g.2 ++ [p] ++ rest.flatMap (·.2)).Perm (g.2 ++ rest.flatMap (·.2) ++ [p])
      rw [List.append_assoc, List.append_assoc]
      exact List.perm_append_comm.append_left g.2
    · show (g.2 ++ (Catalog.addToIndex id p rest).flatMap (·.2)).Perm
        (g.2 ++ rest.flatMap (·.2) ++ [p])
      rw [List.append_assoc]
      exact ih.append_left g.2

/-! ## All entries -/

theorem isGrouping_nil (key : Placed → String) : IsGrouping key [] [] :=
  ⟨fun _ => Iff.rfl, List.Pairwise.nil, nofun⟩

theorem isGrouping_foldl (rest : List Placed) (h : IsGrouping key items groups) :
    IsGrouping key (items ++ rest)
      (rest.foldl (fun index p => addToIndex (key p) p index) groups) := by
  induction rest generalizing items groups with
  | nil => rwa [List.append_nil]
  | cons p rest ih =>
    rw [List.append_cons]
    exact ih (h.addToIndex p)

theorem flatMap_foldl_perm (key : Placed → String) (rest : List Placed)
    (index : List (String × List Placed)) :
    ((rest.foldl (fun index p => addToIndex (key p) p index) index).flatMap (·.2)).Perm
      (index.flatMap (·.2) ++ rest) := by
  induction rest generalizing index with
  | nil => rw [List.append_nil]; exact List.Perm.refl _
  | cons p rest ih =>
    rw [List.append_cons]
    exact (ih _).trans ((flatMap_addToIndex_perm (key p) p index).append_right rest)

/-- **The index of a catalog is the grouping of its entries by component id**, and the only one.
Each entry, told apart from equal ones by its place, is in it once. -/
theorem indexById_iff_isGrouping (vendors : Vendor.Registry) (withVersion : Bool) (c : Catalog) :
    (∀ groups, groups = c.indexById vendors withVersion ↔
        IsGrouping (fun p => p.1.componentId vendors withVersion) c.placed groups) ∧
      ((c.indexById vendors withVersion).flatMap (·.2)).Perm c.placed ∧
      ((c.indexById vendors withVersion).map (·.2.length)).sum = c.entries.length := by
  have hgrouping : IsGrouping (fun p => p.1.componentId vendors withVersion) c.placed
      (c.indexById vendors withVersion) :=
    isGrouping_foldl c.placed (isGrouping_nil _)
  have hperm : ((c.indexById vendors withVersion).flatMap (·.2)).Perm c.placed :=
    flatMap_foldl_perm (fun p => p.1.componentId vendors withVersion) c.placed []
  refine ⟨fun groups => ⟨fun h => h ▸ hgrouping, fun h => h.unique hgrouping⟩, hperm, ?_⟩
  rw [← List.length_flatMap, hperm.length_eq, placed, List.length_zipIdx]

/-- Two spellings of a vendor have one id, and equal entries are kept apart. -/
example :
    let core (vendor : String) := AttributeSet.ofPairs
      [("Cvendor", vendor), ("Cclass", "CMSIS"), ("Cgroup", "CORE")]
    let device := AttributeSet.ofPairs [("Cclass", "Device"), ("Cgroup", "Startup")]
    indexById Vendor.Registry.builtin false ⟨[core "ARM", device, core "ARM:82", core "ARM"]⟩ =
      [("ARM::CMSIS.CORE", [(core "ARM", 0), (core "ARM:82", 2), (core "ARM", 3)]),
        ("::Device.Startup", [(device, 1)])] := by
  decide +kernel

end PackQuery.Catalog
