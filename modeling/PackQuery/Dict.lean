/-!
# Dictionaries in key order

A dictionary maps texts to values. Its entries stand in increasing order of their keys, each key
once, and the type carries the proof, so listing a dictionary needs no sorting and two
dictionaries that answer every look-up alike are the same value (`Dict.ext_get?`). Texts are
ordered by code point, which is also the order of their UTF-8 bytes.

The look-up laws `get?_insert`, `get?_erase` and `get?_overlay` say all that an operation does, so
the laws of dictionaries laid over one another follow from those of `Option.or`.
-/

namespace PackQuery

universe u

/-- A finite map from texts, listed in increasing order of its keys. -/
structure Dict (α : Type u) where
  /-- The pairs of the map, in key order. -/
  entries : List (String × α) := []
  /-- Keys increase strictly along the list. -/
  sorted : entries.Pairwise (fun p q => p.1 < q.1) := by exact List.Pairwise.nil

namespace Dict

variable {α : Type u}

instance : Inhabited (Dict α) := ⟨{}⟩

instance [DecidableEq α] : DecidableEq (Dict α) := fun a b =>
  if h : a.entries = b.entries then
    isTrue (by cases a; cases b; cases h; rfl)
  else isFalse (fun hab => h (hab ▸ rfl))

/-- The dictionary without entries. -/
def empty : Dict α := {}

/-! ## Looking up -/

/-- The first value listed under a key. -/
def find? (k : String) : List (String × α) → Option α
  | [] => none
  | (k', v) :: rest => if k = k' then some v else find? k rest

/-- The value of a key, if the dictionary has one. -/
def get? (d : Dict α) (k : String) : Option α := find? k d.entries

/-- Whether a key has a value. -/
def contains (d : Dict α) (k : String) : Bool := (d.get? k).isSome

/-- The keys, increasing. -/
def keys (d : Dict α) : List String := d.entries.map (·.1)

/-- The number of entries. -/
def size (d : Dict α) : Nat := d.entries.length

/-- Whether there is no entry at all. -/
def isEmpty (d : Dict α) : Bool := d.entries.isEmpty

/-! ## Changing -/

/-- Put a value under a key into a list in key order, over the value that is there. -/
def put (k : String) (v : α) : List (String × α) → List (String × α)
  | [] => [(k, v)]
  | (k', v') :: rest =>
    if k < k' then (k, v) :: (k', v') :: rest
    else if k = k' then (k, v) :: rest
    else (k', v') :: put k v rest

theorem fst_mem_put {k : String} {v : α} {l : List (String × α)} {p : String × α}
    (h : p ∈ put k v l) : p.1 = k ∨ p ∈ l := by
  induction l with
  | nil => simp_all [put]
  | cons q rest ih =>
    obtain ⟨k', v'⟩ := q
    simp only [put] at h
    split at h
    · rcases List.mem_cons.1 h with rfl | h
      · exact Or.inl rfl
      · exact Or.inr h
    · split at h
      · rcases List.mem_cons.1 h with rfl | h
        · exact Or.inl rfl
        · exact Or.inr (List.mem_cons_of_mem _ h)
      · rcases List.mem_cons.1 h with rfl | h
        · exact Or.inr List.mem_cons_self
        · exact (ih h).imp_right (List.mem_cons_of_mem _)

theorem lt_of_not_lt_of_ne {a b : String} (h : ¬a < b) (hne : a ≠ b) : b < a :=
  String.not_le.1 fun hab => hne (String.le_antisymm hab (String.not_lt.1 h))

theorem pairwise_put (k : String) (v : α) {l : List (String × α)}
    (h : l.Pairwise (fun p q => p.1 < q.1)) :
    (put k v l).Pairwise (fun p q => p.1 < q.1) := by
  induction l with
  | nil => simp [put]
  | cons q rest ih =>
    obtain ⟨k', v'⟩ := q
    obtain ⟨hhead, htail⟩ := List.pairwise_cons.1 h
    simp only [put]
    split
    · rename_i hlt
      refine List.pairwise_cons.2 ⟨fun p hp => ?_, h⟩
      rcases List.mem_cons.1 hp with rfl | hp
      · exact hlt
      · exact String.lt_trans hlt (hhead p hp)
    · split
      · rename_i heq
        exact List.pairwise_cons.2 ⟨fun p hp => heq ▸ hhead p hp, htail⟩
      · rename_i hlt hne
        refine List.pairwise_cons.2 ⟨fun p hp => ?_, ih htail⟩
        rcases fst_mem_put hp with hk | hp
        · exact hk ▸ lt_of_not_lt_of_ne hlt hne
        · exact hhead p hp

/-- Put a value under a key, over the value that is there. -/
def insert (d : Dict α) (k : String) (v : α) : Dict α :=
  ⟨put k v d.entries, pairwise_put k v d.sorted⟩

/-- Keep the entries whose key and value pass the test. -/
def filter (d : Dict α) (keep : String → α → Bool) : Dict α :=
  ⟨d.entries.filter fun p => keep p.1 p.2, d.sorted.sublist List.filter_sublist⟩

/-- Take a key away. -/
def erase (d : Dict α) (k : String) : Dict α := d.filter fun k' _ => k' ≠ k

/-- Put the pairs one after another, so that the last pair of a key wins. -/
def insertMany (d : Dict α) (pairs : List (String × α)) : Dict α :=
  pairs.foldl (fun d p => d.insert p.1 p.2) d

/-- The dictionary of some pairs, the last pair of a key winning. -/
def ofList (pairs : List (String × α)) : Dict α := empty.insertMany pairs

/-- Whether the keys of a list increase, each entry being compared with the next. -/
def isIncreasing : List (String × α) → Bool
  | [] => true
  | p :: rest => isIncreasingFrom p.1 rest
where
  /-- Whether the keys increase from a key before the list on. -/
  isIncreasingFrom (k : String) : List (String × α) → Bool
    | [] => true
    | q :: rest => decide (k < q.1) && isIncreasingFrom q.1 rest

theorem pairwise_of_isIncreasingFrom {k : String} {v : α} {l : List (String × α)}
    (h : isIncreasing.isIncreasingFrom k l = true) :
    ((k, v) :: l).Pairwise (fun p q => p.1 < q.1) := by
  induction l generalizing k v with
  | nil => simp
  | cons q rest ih =>
    simp only [isIncreasing.isIncreasingFrom, Bool.and_eq_true, decide_eq_true_eq] at h
    have htail := ih (v := q.2) h.2
    refine List.pairwise_cons.2 ⟨fun r hr => ?_, htail⟩
    rcases List.mem_cons.1 hr with rfl | hr
    · exact h.1
    · exact String.lt_trans h.1 ((List.pairwise_cons.1 htail).1 r hr)

theorem pairwise_of_isIncreasing {l : List (String × α)} (h : isIncreasing l = true) :
    l.Pairwise (fun p q => p.1 < q.1) :=
  match l, h with
  | [], _ => List.Pairwise.nil
  | _ :: _, h => pairwise_of_isIncreasingFrom h

/-- The dictionary of a list whose keys increase. -/
def ofIncreasing (l : List (String × α)) (h : isIncreasing l = true) : Dict α :=
  ⟨l, pairwise_of_isIncreasing h⟩

/-- The entries of both, those of `upper` where a key is in both. -/
def overlay (d upper : Dict α) : Dict α := d.insertMany upper.entries

/-! ## Look-up laws -/

@[simp] theorem get?_empty (k : String) : (empty : Dict α).get? k = none := rfl

theorem find?_put (k k' : String) (v : α) (l : List (String × α)) :
    find? k' (put k v l) = if k' = k then some v else find? k' l := by
  induction l with
  | nil => simp [put, find?]
  | cons q rest ih =>
    obtain ⟨j, w⟩ := q
    simp only [put]
    split
    · simp [find?]
    · split
      · subst_vars
        simp only [find?]
        split <;> rfl
      · rename_i _ hne
        simp only [find?, ih]
        by_cases hj : k' = j
        · subst hj
          simp [Ne.symm hne]
        · simp [hj]

@[simp] theorem get?_insert (d : Dict α) (k k' : String) (v : α) :
    (d.insert k v).get? k' = if k' = k then some v else d.get? k' :=
  find?_put k k' v d.entries

theorem find?_eq_none_of_lt {k : String} {l : List (String × α)} (h : ∀ p ∈ l, k < p.1) :
    find? k l = none := by
  induction l with
  | nil => rfl
  | cons q rest ih =>
    have hne : ¬k = q.1 := fun heq => String.lt_irrefl q.1 (heq ▸ h q List.mem_cons_self)
    simp only [find?, hne, if_false]
    exact ih fun p hp => h p (List.mem_cons_of_mem _ hp)

theorem find?_filter {keep : String → α → Bool} {l : List (String × α)} (k : String)
    (h : l.Pairwise (fun p q => p.1 < q.1)) :
    find? k (l.filter fun p => keep p.1 p.2) = (find? k l).filter (keep k) := by
  induction l with
  | nil => rfl
  | cons q rest ih =>
    obtain ⟨j, w⟩ := q
    obtain ⟨hhead, htail⟩ := List.pairwise_cons.1 h
    by_cases hj : k = j
    · subst hj
      by_cases hk : keep k w = true
      · simp [find?, hk, Option.filter]
      · have hnone : find? k (rest.filter fun p => keep p.1 p.2) = none :=
          find?_eq_none_of_lt fun p hp => hhead p (List.mem_filter.1 hp).1
        simp [find?, hk, hnone, Option.filter]
    · by_cases hk : keep j w = true
      · simp [find?, hk, hj, ih htail]
      · simp [hk, hj, find?, ih htail]

theorem get?_filter (d : Dict α) (keep : String → α → Bool) (k : String) :
    (d.filter keep).get? k = (d.get? k).filter (keep k) :=
  find?_filter k d.sorted

@[simp] theorem get?_erase (d : Dict α) (k k' : String) :
    (d.erase k).get? k' = if k' = k then none else d.get? k' := by
  rw [erase, get?_filter]
  by_cases h : k' = k
  · cases d.get? k' <;> simp [h, Option.filter]
  · cases d.get? k' <;> simp [h, Option.filter]

theorem get?_insertMany (d : Dict α) {l : List (String × α)}
    (h : l.Pairwise (fun p q => p.1 < q.1)) (k : String) :
    (d.insertMany l).get? k = (find? k l).or (d.get? k) := by
  induction l generalizing d with
  | nil => rfl
  | cons p rest ih =>
    obtain ⟨hhead, htail⟩ := List.pairwise_cons.1 h
    have hstep := ih (d.insert p.1 p.2) htail
    rw [get?_insert] at hstep
    refine hstep.trans ?_
    by_cases hk : k = p.1
    · have hnone : find? k rest = none := find?_eq_none_of_lt fun q hq => hk ▸ hhead q hq
      simp [find?, hk, hk ▸ hnone]
    · simp [find?, hk]

/-- The upper of two dictionaries answers first. -/
@[simp] theorem get?_overlay (d upper : Dict α) (k : String) :
    (d.overlay upper).get? k = (upper.get? k).or (d.get? k) :=
  get?_insertMany d upper.sorted k

theorem mem_iff_find? {k : String} {v : α} {l : List (String × α)}
    (h : l.Pairwise (fun p q => p.1 < q.1)) : (k, v) ∈ l ↔ find? k l = some v := by
  induction l with
  | nil => simp [find?]
  | cons q rest ih =>
    obtain ⟨j, w⟩ := q
    obtain ⟨hhead, htail⟩ := List.pairwise_cons.1 h
    rw [List.mem_cons, ih htail, find?]
    by_cases hk : k = j
    · subst hk
      simp [find?_eq_none_of_lt hhead, eq_comm]
    · simp [hk]

/-- The entries are what look-ups find. -/
theorem mem_entries_iff {d : Dict α} {k : String} {v : α} :
    (k, v) ∈ d.entries ↔ d.get? k = some v :=
  mem_iff_find? d.sorted

theorem mem_keys_iff {d : Dict α} {k : String} : k ∈ d.keys ↔ ∃ v, d.get? k = some v := by
  simp only [keys, List.mem_map, Prod.exists, mem_entries_iff, exists_and_right, exists_eq_right]

theorem pairwise_keys (d : Dict α) : d.keys.Pairwise (· < ·) :=
  List.pairwise_map.mpr d.sorted

theorem nodup_keys (d : Dict α) : d.keys.Nodup := d.pairwise_keys.imp String.ne_of_lt

theorem length_keys (d : Dict α) : d.keys.length = d.size := List.length_map _

/-- What holds of all entries holds of all look-ups. -/
theorem forall_mem_entries_iff {d : Dict α} {P : String → α → Prop} :
    (∀ p ∈ d.entries, P p.1 p.2) ↔ ∀ k v, d.get? k = some v → P k v := by
  simp only [Prod.forall, mem_entries_iff]

instance (d : Dict α) (P : String → α → Prop) [∀ k v, Decidable (P k v)] :
    Decidable (∀ k v, d.get? k = some v → P k v) :=
  decidable_of_iff _ forall_mem_entries_iff

/-- Look-ups determine a list in key order. -/
theorem eq_of_find?_eq {l m : List (String × α)} (hl : l.Pairwise (fun p q => p.1 < q.1))
    (hm : m.Pairwise (fun p q => p.1 < q.1)) (h : ∀ k, find? k l = find? k m) : l = m := by
  induction l generalizing m with
  | nil =>
    cases m with
    | nil => rfl
    | cons q _ => simpa [find?] using h q.1
  | cons p rest ih =>
    cases m with
    | nil => simpa [find?] using h p.1
    | cons q rest' =>
      obtain ⟨hp, hrest⟩ := List.pairwise_cons.1 hl
      obtain ⟨hq, hrest'⟩ := List.pairwise_cons.1 hm
      have hkey : p.1 = q.1 := by
        apply Classical.byContradiction
        intro hne
        by_cases hlt : p.1 < q.1
        · have := h p.1
          rw [find?_eq_none_of_lt (l := q :: rest')] at this
          · simp [find?] at this
          · intro r hr
            rcases List.mem_cons.1 hr with rfl | hr
            · exact hlt
            · exact String.lt_trans hlt (hq r hr)
        · have hgt := lt_of_not_lt_of_ne hlt hne
          have := h q.1
          rw [find?_eq_none_of_lt (l := p :: rest)] at this
          · simp [find?] at this
          · intro r hr
            rcases List.mem_cons.1 hr with rfl | hr
            · exact hgt
            · exact String.lt_trans hgt (hp r hr)
      have hval : p.2 = q.2 := by simpa [find?, hkey] using h p.1
      have htails : rest = rest' := by
        refine ih hrest hrest' fun k => ?_
        by_cases hk : k = p.1
        · rw [find?_eq_none_of_lt fun r hr => hk ▸ hp r hr,
            find?_eq_none_of_lt fun r hr => hk ▸ hkey ▸ hq r hr]
        · have := h k
          simpa [find?, hk, hkey ▸ hk] using this
      rw [Prod.ext hkey hval, htails]

/-- Dictionaries that answer every look-up alike are equal. -/
theorem ext_get? {d e : Dict α} (h : ∀ k, d.get? k = e.get? k) : d = e := by
  cases d with | mk l hl =>
  cases e with | mk m hm =>
  cases eq_of_find?_eq hl hm h
  rfl

/-- A filter changes nothing exactly if all entries pass. -/
theorem filter_eq_self_iff {d : Dict α} {keep : String → α → Bool} :
    d.filter keep = d ↔ ∀ k v, d.get? k = some v → keep k v = true := by
  constructor
  · intro h k v hv
    have hkept : (d.get? k).filter (keep k) = some v := by rw [← get?_filter, h, hv]
    exact (Option.filter_eq_some_iff.mp hkept).2
  · intro h
    apply ext_get?
    intro k
    rw [get?_filter]
    cases hv : d.get? k with
    | none => rfl
    | some v => exact Option.filter_eq_some_iff.mpr ⟨rfl, h k v hv⟩

theorem size_filter_eq_iff {d : Dict α} {keep : String → α → Bool} :
    (d.filter keep).size = d.size ↔ d.filter keep = d := by
  constructor
  · intro h
    have hentries : (d.filter keep).entries = d.entries := List.filter_sublist.eq_of_length h
    apply ext_get?
    intro k
    rw [get?, get?, hentries]
  · intro h
    rw [h]

theorem insert_eq_self_iff {d : Dict α} {k : String} {v : α} :
    d.insert k v = d ↔ d.get? k = some v := by
  constructor
  · intro h
    rw [← h, get?_insert, if_pos rfl]
  · intro h
    apply ext_get?
    intro k'
    rw [get?_insert]
    split
    · rename_i hk
      rw [hk, h]
    · rfl

theorem erase_eq_self_iff {d : Dict α} {k : String} : d.erase k = d ↔ d.get? k = none := by
  constructor
  · intro h
    rw [← h, get?_erase, if_pos rfl]
  · intro h
    apply ext_get?
    intro k'
    rw [get?_erase]
    split
    · rename_i hk
      rw [hk, h]
    · rfl

/-! ## Dictionaries over one another -/

theorem overlay_assoc (d e f : Dict α) :
    (d.overlay e).overlay f = d.overlay (e.overlay f) := by
  apply ext_get?
  intro k
  simp only [get?_overlay, Option.or_assoc]

theorem overlay_self (d : Dict α) : d.overlay d = d := by
  apply ext_get?
  intro k
  rw [get?_overlay, Option.or_self]

@[simp] theorem overlay_empty (d : Dict α) : d.overlay empty = d := rfl

@[simp] theorem empty_overlay (d : Dict α) : empty.overlay d = d := by
  apply ext_get?
  intro k
  rw [get?_overlay, get?_empty, Option.or_none]

/-- What holds of the entries of both holds of the entries of one over the other. -/
theorem forall_get?_overlay {P : String → α → Prop} {d upper : Dict α}
    (hd : ∀ k v, d.get? k = some v → P k v) (hupper : ∀ k v, upper.get? k = some v → P k v) :
    ∀ k v, (d.overlay upper).get? k = some v → P k v := by
  intro k v h
  rw [get?_overlay, Option.or_eq_some_iff] at h
  rcases h with h | ⟨-, h⟩
  · exact hupper k v h
  · exact hd k v h

end Dict

end PackQuery
