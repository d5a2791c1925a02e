import Mathlib.Data.List.Perm.Subperm
import PackQuery.Proofs.Regex.Forest
import PackQuery.Proofs.Regex.Room

/-!
# The room of a set in a backward automaton

A backward automaton makes a state for each beginning of a block, or recalls the one it has made.
How many states it makes depends on what the table of recalled nodes forgets, and so on the places
of the keys, which hold the numbers of states.

**At least** (`states_append_le`). Whatever is forgotten, different beginnings have different
states, so a forest takes a state for each of its nodes. It does so behind any other forest that
begins differently.

**At most** (`exists_adds_blocks`). A node is needed as long as the forest below it is added. If no
key that comes meanwhile has its place (`IsClear`), the node is made once. So then a forest takes a
state for each of its nodes and no more.
-/

namespace PackQuery.Regex.Room

open Text.Utf8Block (Block only)

/-! ## Paths -/

/-- Adds blocks that end in the state `stop`. -/
def addPaths (stop : Nat) (bs : List Block) (w : Work) : Work :=
  bs.foldl (fun w b => (path stop b w).map Draft.addBranch id) w

/-- What an automaton starts from in front of a set: the state where the blocks end is the last. -/
def start (stop extra : Nat) : Work := (⟨stop + 1, extra⟩, { places := backwardPlaces })

theorem addBackward_eq (bs : List Block) (d : Draft) :
    addBackward bs d = (addPaths (d.states + 1) bs (start (d.states + 1) d.extra)).1 := rfl

theorem addPaths_append (stop : Nat) (bs cs : List Block) (w : Work) :
    addPaths stop (bs ++ cs) w = addPaths stop cs (addPaths stop bs w) :=
  List.foldl_append

theorem addPaths_cons (stop : Nat) (b : Block) (bs : List Block) (w : Work) :
    addPaths stop (b :: bs) w = addPaths stop bs ((path stop b w).map Draft.addBranch id) :=
  rfl

theorem path_cons (next lo hi : Nat) (b : Block) (w : Work) :
    path next ((lo, hi) :: b) w =
      path (node [next, lo, hi] (·.addStates 1) w).1 b (node [next, lo, hi] (·.addStates 1) w).2 :=
  rfl

/-! ## At least a state for each node -/

/-- Whether a state leads to the state `stop` over the bytes of a block. `names` are the blocks of
the states from `stop` on. -/
def IsName (stop : Nat) (names : List Block) (state : Nat) (q : Block) : Prop :=
  ∃ i, state = stop + i ∧ names[i]? = some q

/-- Whether `names` are the blocks of all states made, and all that is held. -/
structure Named (stop : Nat) (names : List Block) (w : Work) : Prop where
  count : w.1.states = stop + names.length
  held : ∀ next lo hi s, w.2.find? [next, lo, hi] = some s →
    ∃ q, IsName stop names next q ∧ IsName stop names s (q ++ [(lo, hi)])

section
variable {stop next s : Nat} {names more : List Block} {q q' b : Block} {w : Work}

theorem IsName.unique (h : IsName stop names s q) (h' : IsName stop names s q') : q = q' := by
  obtain ⟨i, hi, hq⟩ := h
  obtain ⟨j, hj, hq'⟩ := h'
  have hij : i = j := by omega
  rw [hij, hq'] at hq
  exact (Option.some_inj.mp hq).symm

theorem IsName.append (h : IsName stop names s q) (more : List Block) :
    IsName stop (names ++ more) s q := by
  obtain ⟨i, hi, hq⟩ := h
  have hlt : i < names.length := (List.getElem?_eq_some_iff.mp hq).1
  exact ⟨i, hi, by rw [List.getElem?_append_left hlt, hq]⟩

theorem IsName.mem (h : IsName stop names s q) : q ∈ names := by
  obtain ⟨i, -, hq⟩ := h
  exact List.mem_of_getElem? hq

theorem IsName.new (hw : Named stop names w) (q : Block) :
    IsName stop (names ++ [q]) w.1.states q :=
  ⟨names.length, hw.count, by simp⟩

theorem Named.insert (hw : Named stop names w) (hnext : IsName stop names next q) (lo hi : Nat) :
    Named stop (names ++ [q ++ [(lo, hi)]])
      (w.1.addStates 1, w.2.insert [next, lo, hi] w.1.states) := by
  refine ⟨?_, fun m lo' hi' s hs => ?_⟩
  · rw [Draft.addStates, hw.count, List.length_append, List.length_singleton, Nat.add_assoc]
  · rcases Recall.find?_insert_eq_some hs with ⟨hkey, rfl⟩ | hs
    · cases hkey
      exact ⟨q, hnext.append _, .new hw _⟩
    · obtain ⟨q', hq', hs⟩ := hw.held m lo' hi' s hs
      exact ⟨q', hq'.append _, hs.append _⟩

/-- The state of a node has the name of its block, or is given it. -/
theorem exists_named_node (hw : Named stop names w) (hnext : IsName stop names next q)
    (lo hi : Nat) :
    ∃ more, Named stop (names ++ more) (node [next, lo, hi] (·.addStates 1) w).2 ∧
      (node [next, lo, hi] (·.addStates 1) w).2.1.extra = w.1.extra ∧
      IsName stop (names ++ more) (node [next, lo, hi] (·.addStates 1) w).1 (q ++ [(lo, hi)]) ∧
      ∀ x ∈ more, x = q ++ [(lo, hi)] := by
  cases hfind : w.2.find? [next, lo, hi] with
  | some s =>
    rw [node_of_find?_eq_some hfind]
    obtain ⟨q', hq', hs⟩ := hw.held next lo hi s hfind
    obtain rfl := hnext.unique hq'
    exact ⟨[], by simpa using hw, rfl, by simpa using hs, nofun⟩
  | none =>
    rw [node_of_find?_eq_none hfind]
    exact ⟨[_], hw.insert hnext lo hi, rfl, .new hw _, fun x hx => List.mem_singleton.mp hx⟩

/-- **A path names the beginnings of its block** that have no name. -/
theorem exists_named_path (hw : Named stop names w) (hnext : IsName stop names next q) :
    ∃ more, Named stop (names ++ more) (path next b w) ∧ (path next b w).1.extra = w.1.extra ∧
      (∀ p, p <+: b → q ++ p ∈ names ++ more) ∧ ∀ x ∈ more, ∃ p, p <+: b ∧ x = q ++ p := by
  induction b generalizing names next q w with
  | nil =>
    refine ⟨[], by simpa [path] using hw, rfl, fun p hp => ?_, nofun⟩
    rw [List.prefix_nil.mp hp]
    simpa using hnext.mem
  | cons range b ih =>
    obtain ⟨lo, hi⟩ := range
    obtain ⟨first, hnamed, hextra, hstate, hfirst⟩ := exists_named_node hw hnext lo hi
    obtain ⟨others, hnamed', hextra', hall, hothers⟩ := ih hnamed hstate
    rw [List.append_assoc] at hnamed' hall
    refine ⟨_, hnamed', hextra'.trans hextra, fun p hp => ?_, fun x hx => ?_⟩
    · rcases List.prefix_cons_iff.mp hp with rfl | ⟨p', rfl, hp'⟩
      · simpa using List.mem_append_left (first ++ others) hnext.mem
      · simpa using hall p' hp'
    · rcases List.mem_append.mp hx with hx | hx
      · exact ⟨[(lo, hi)], (List.prefix_cons_inj _).mpr List.nil_prefix, hfirst x hx⟩
      · obtain ⟨p, hp, rfl⟩ := hothers x hx
        exact ⟨(lo, hi) :: p, (List.prefix_cons_inj _).mpr hp, by simp⟩

/-- **Blocks name their beginnings** that have no name, and nothing else. -/
theorem exists_named_paths (hstop : IsName stop names stop []) (hw : Named stop names w)
    (bs : List Block) :
    ∃ more, Named stop (names ++ more) (addPaths stop bs w) ∧
      (addPaths stop bs w).1.extra = w.1.extra + branchSize * bs.length ∧
      (∀ b ∈ bs, ∀ p, p <+: b → p ∈ names ++ more) ∧ ∀ x ∈ more, ∃ b ∈ bs, x <+: b := by
  induction bs generalizing names w with
  | nil => exact ⟨[], by simpa [addPaths] using hw, rfl, nofun, nofun⟩
  | cons b bs ih =>
    obtain ⟨first, hnamed, hextra, hall, hfirst⟩ := exists_named_path (b := b) hw hstop
    have hbranch : Named stop (names ++ first) ((path stop b w).map Draft.addBranch id) :=
      ⟨hnamed.count, hnamed.held⟩
    obtain ⟨others, hnamed', hextra', hall', hothers⟩ := ih (hstop.append first) hbranch
    rw [← addPaths_cons, List.append_assoc] at hnamed'
    rw [List.append_assoc] at hall'
    refine ⟨_, hnamed', ?_, List.forall_mem_cons.mpr ⟨fun p hp => ?_, hall'⟩, fun x hx => ?_⟩
    · rw [addPaths_cons, hextra', Prod.map_fst, Draft.addBranch, hextra, List.length_cons,
        Nat.mul_succ, Nat.add_assoc, Nat.add_comm branchSize]
    · rw [← List.append_assoc]
      exact List.mem_append_left others (hall p hp)
    · rcases List.mem_append.mp hx with hx | hx
      · obtain ⟨p, hp, rfl⟩ := hfirst x hx
        exact ⟨b, List.mem_cons_self, hp⟩
      · obtain ⟨c, hc, hx⟩ := hothers x hx
        exact ⟨c, List.mem_cons_of_mem b hc, hx⟩

end

theorem named_start (stop extra : Nat) : Named stop [[]] (start stop extra) where
  count := rfl
  held next lo hi s h := by
    rw [start, Recall.find?_empty] at h
    cases h

theorem isName_start (stop : Nat) : IsName stop [[]] stop [] := ⟨0, rfl, rfl⟩

/-- A beginning of a block of another forest starts with another root. -/
theorem not_mem_beginnings {f g : Forest} (h : ∀ byte ∈ f.roots, byte ∉ g.roots) {b x : Block}
    (hb : b ∈ f.blocks) (hx : x <+: b) : x ∉ g.beginnings := by
  intro hmem
  obtain ⟨byte, rest, rfl, hbyte⟩ := Forest.head?_mem_roots hmem
  obtain ⟨c, rest', rfl, hc⟩ := Forest.exists_root_of_mem_blocks hb
  obtain ⟨heq, -⟩ := (List.cons_prefix_cons).mp hx
  cases heq
  exact h byte hc hbyte

/-- **At least a state for each node.** A forest with other roots than the forest before it takes a
state for each of its nodes, and every block takes a branch. -/
theorem states_append_le {f g : Forest} (hg : g.IsAscending)
    (hroots : ∀ byte ∈ f.roots, byte ∉ g.roots) (stop extra : Nat) :
    (addPaths stop f.blocks (start stop extra)).1.states + g.size ≤
        (addPaths stop (f.blocks ++ g.blocks) (start stop extra)).1.states ∧
      (addPaths stop (f.blocks ++ g.blocks) (start stop extra)).1.extra =
        extra + branchSize * (f.blocks.length + g.blocks.length) := by
  obtain ⟨first, hfirst, hextra, -, hbefore⟩ :=
    exists_named_paths (isName_start stop) (named_start stop extra) f.blocks
  obtain ⟨more, hmore, hextra', hall, -⟩ :=
    exists_named_paths ((isName_start stop).append first) hfirst g.blocks
  have hsubset : g.beginnings ⊆ more := by
    intro q hq
    obtain ⟨b, hb, hprefix⟩ := Forest.exists_block_of_mem_beginnings hq
    rcases List.mem_append.mp (hall b hb q hprefix) with hold | hnew
    · rcases List.mem_append.mp hold with hnil | hfront
      · obtain rfl := List.mem_singleton.mp hnil
        obtain ⟨_, _, heq, -⟩ := Forest.head?_mem_roots hq
        cases heq
      · obtain ⟨b', hb', hx⟩ := hbefore q hfront
        exact absurd hq (not_mem_beginnings hroots hb' hx)
    · exact hnew
  have hlength : g.size ≤ more.length := by
    rw [← g.length_beginnings]
    exact ((Forest.nodup_beginnings hg).subperm hsubset).length_le
  rw [addPaths_append]
  refine ⟨?_, ?_⟩
  · rw [hmore.count, hfirst.count, @List.length_append _ ([[]] ++ first)]
    omega
  · rw [hextra', hextra, Nat.mul_add, ← Nat.add_assoc]
    rfl

/-! ## No more than a state for each node -/

/-- The entries for the nodes that lead from a state over the bytes of a block to another state. -/
inductive IsWay : Nat → Block → List (List Nat × Nat) → Nat → Prop
  | nil (s : Nat) : IsWay s [] [] s
  | cons {next lo hi s : Nat} {q : Block} {entries : List (List Nat × Nat)} {last : Nat}
      (h : IsWay s q entries last) :
      IsWay next ((lo, hi) :: q) (([next, lo, hi], s) :: entries) last

/-- Whether no node of a forest takes one of the places `taken` or that of a node above it. The
roots lead to the state `next`, and the states of the nodes are counted from `n` on. -/
def IsClear (taken : List Nat) (next n : Nat) : Forest → Prop
  | .nil => True
  | .cons byte below rest =>
    placeOf (keyOf next byte) ∉ taken ∧
      IsClear (placeOf (keyOf next byte) :: taken) n (n + 1) below ∧
      IsClear taken next (n + 1 + below.size) rest

instance decidableIsClear : ∀ (taken : List Nat) (next n : Nat) (f : Forest),
    Decidable (IsClear taken next n f)
  | _, _, _, .nil => isTrue trivial
  | taken, next, n, .cons byte below rest =>
    have := decidableIsClear (placeOf (keyOf next byte) :: taken) n (n + 1) below
    have := decidableIsClear taken next (n + 1 + below.size) rest
    inferInstanceAs (Decidable (_ ∧ _ ∧ _))

/-- Whether a table holds some entries, and no key with a state that is not made yet. -/
structure Holds (entries : List (List Nat × Nat)) (w : Work) : Prop where
  places : w.2.places = backwardPlaces
  held : ∀ e ∈ entries, w.2.find? e.1 = some e.2
  older : ∀ next lo hi s, w.2.find? [next, lo, hi] = some s → next < w.1.states

/-- Whether blocks behind the beginning `q`, which has the state `next`, are added with `nodes` new
states. Of the older states only `next` has new nodes, by `bytes`. -/
structure Adds (stop next : Nat) (q : Block) (entries : List (List Nat × Nat)) (bytes : List Nat)
    (nodes : Nat) (bs : List Block) (w w' : Work) : Prop where
  run : addPaths stop (bs.map (q ++ ·)) w = w'
  draft : w'.1 = ⟨w.1.states + nodes, w.1.extra + branchSize * bs.length⟩
  holds : Holds entries w'
  news : ∀ m lo hi, m < w.1.states → w'.2.find? [m, lo, hi] ≠ none →
    w.2.find? [m, lo, hi] ≠ none ∨ m = next ∧ lo ∈ bytes

section
variable {stop next last s byte : Nat} {q b : Block} {entries : List (List Nat × Nat)}
  {taken : List Nat} {w : Work}

theorem IsWay.append (h : IsWay next q entries last) (lo hi s : Nat) :
    IsWay next (q ++ [(lo, hi)]) (entries ++ [([last, lo, hi], s)]) s := by
  induction h with
  | nil last => exact .cons (.nil s)
  | cons _ ih => exact .cons ih

/-- A path does not change the table as long as its nodes are held. -/
theorem path_append (h : IsWay next q entries last)
    (held : ∀ e ∈ entries, w.2.find? e.1 = some e.2) (b : Block) :
    path next (q ++ b) w = path last b w := by
  induction h with
  | nil last => rfl
  | cons _ ih =>
    obtain ⟨hfirst, hrest⟩ := List.forall_mem_cons.mp held
    rw [List.cons_append, path_cons, node_of_find?_eq_some hfirst, ih hrest]

/-- The state of a node that is made. -/
def withNode (next byte : Nat) (w : Work) : Work :=
  (w.1.addStates 1, w.2.insert (keyOf next byte) w.1.states)

theorem path_only (hnew : w.2.find? (keyOf next byte) = none) (b : Block) :
    path next (only byte :: b) w = path w.1.states b (withNode next byte w) := by
  rw [path_cons, node_of_find?_eq_none hnew]
  rfl

/-- A new node is held with those above it. -/
theorem Holds.withNode (h : Holds entries w) (hmade : next < w.1.states)
    (htaken : ∀ e ∈ entries, placeOf e.1 ∈ taken) (hclear : placeOf (keyOf next byte) ∉ taken) :
    Holds (entries ++ [(keyOf next byte, w.1.states)]) (withNode next byte w) := by
  refine ⟨h.places, fun e he => ?_, fun m lo hi s hs => ?_⟩
  · rcases List.mem_append.mp he with he | he
    · rw [← h.held e he]
      refine Recall.find?_insert_of_place _ fun heq => hclear ?_
      rw [Recall.place, Recall.place, h.places] at heq
      have hplace : placeOf (keyOf next byte) = placeOf e.1 := heq
      exact hplace ▸ htaken e he
    · obtain rfl := List.mem_singleton.mp he
      exact Recall.find?_insert_self _ _ _
  · rcases Recall.find?_insert_eq_some hs with ⟨hkey, -⟩ | hs
    · cases hkey
      exact Nat.lt_succ_of_lt hmade
    · exact Nat.lt_succ_of_lt (h.older m lo hi s hs)

/-- What blocks make that begin alike, behind the node of that beginning. -/
theorem addPaths_only (hway : IsWay stop q entries next) (hw : Holds entries w)
    (hnode : Holds (entries ++ [(keyOf next byte, w.1.states)]) (withNode next byte w))
    (hnew : w.2.find? (keyOf next byte) = none) {bs : List Block} (hne : bs ≠ []) :
    addPaths stop ((bs.map (only byte :: ·)).map (q ++ ·)) w =
      addPaths stop (bs.map ((q ++ [only byte]) ++ ·)) (withNode next byte w) := by
  obtain ⟨b, bs, rfl⟩ := List.exists_cons_of_ne_nil hne
  have hfirst : path stop (q ++ only byte :: b) w =
      path stop (q ++ [only byte] ++ b) (withNode next byte w) := by
    rw [path_append hway hw.held, path_only hnew, path_append (hway.append _ _ _) hnode.held]
  simp only [List.map_cons, addPaths_cons, hfirst, List.map_map, Function.comp_def,
    List.append_assoc, List.singleton_append]

/-- A node of a new state is not held. -/
theorem find?_withNode_eq_none (hw : Holds entries w) (hmade : next < w.1.states) (c : Nat) :
    (withNode next byte w).2.find? (keyOf w.1.states c) = none := by
  refine Option.eq_none_iff_forall_ne_some.mpr fun s hs => ?_
  rcases Recall.find?_insert_eq_some hs with ⟨hkey, -⟩ | hs
  · exact absurd (List.cons.inj hkey).1 (Nat.ne_of_gt hmade)
  · exact absurd (hw.older _ _ _ _ hs) (Nat.lt_irrefl _)

/-- A block may end where it stands. -/
theorem Adds.here (hway : IsWay stop q entries last) (hw : Holds entries w) :
    Adds stop last q entries [] 0 [[]] w (w.1.addBranch, w.2) where
  run := by
    rw [List.map_singleton, addPaths_cons, path_append hway hw.held]
    rfl
  draft := rfl
  holds := ⟨hw.places, hw.held, hw.older⟩
  news _ _ _ _ hfind := Or.inl hfind

/-- Blocks behind one more byte take one more state. -/
theorem Adds.node {bs : List Block} {bytes : List Nat} {nodes : Nat} {w' : Work} (hne : bs ≠ [])
    (hway : IsWay stop q entries next) (hw : Holds entries w)
    (hnode : Holds (entries ++ [(keyOf next byte, w.1.states)]) (withNode next byte w))
    (hnew : w.2.find? (keyOf next byte) = none)
    (h : Adds stop w.1.states (q ++ [only byte]) (entries ++ [(keyOf next byte, w.1.states)]) bytes
      nodes bs (withNode next byte w) w') :
    Adds stop next q entries [byte] (1 + nodes) (bs.map (only byte :: ·)) w w' where
  run := by rw [addPaths_only hway hw hnode hnew hne, h.run]
  draft := by
    rw [h.draft, List.length_map, ← Nat.add_assoc]
    rfl
  holds := ⟨h.holds.places, fun e he => h.holds.held e (List.mem_append_left _ he), h.holds.older⟩
  news m lo hi hm hfind := by
    rcases h.news m lo hi (Nat.lt_succ_of_lt hm) hfind with hfind | ⟨rfl, -⟩
    · obtain ⟨s, hs⟩ := Option.ne_none_iff_exists'.mp hfind
      rcases Recall.find?_insert_eq_some hs with ⟨hkey, -⟩ | hs
      · cases hkey
        exact Or.inr ⟨rfl, List.mem_singleton_self _⟩
      · exact Or.inl (by simp [hs])
    · exact absurd hm (Nat.lt_irrefl _)

theorem Adds.append {bs cs : List Block} {bytes bytes' : List Nat} {nodes nodes' : Nat}
    {w' w'' : Work} (h : Adds stop next q entries bytes nodes bs w w')
    (h' : Adds stop next q entries bytes' nodes' cs w' w'') :
    Adds stop next q entries (bytes ++ bytes') (nodes + nodes') (bs ++ cs) w w'' where
  run := by rw [List.map_append, addPaths_append, h.run, h'.run]
  draft := by
    rw [h'.draft, h.draft, List.length_append, Nat.mul_add, Nat.add_assoc, Nat.add_assoc]
  holds := h'.holds
  news m lo hi hm hfind := by
    have hm' : m < w'.1.states := by
      rw [h.draft]
      exact Nat.lt_add_right nodes hm
    rcases h'.news m lo hi hm' hfind with hfind | ⟨hnext, hlo⟩
    · rcases h.news m lo hi hm hfind with hfind | ⟨hnext, hlo⟩
      · exact Or.inl hfind
      · exact Or.inr ⟨hnext, List.mem_append_left _ hlo⟩
    · exact Or.inr ⟨hnext, List.mem_append_right _ hlo⟩

/-- **A forest is added with one state for each node** if no node is driven out while it is
needed. The nodes above it are held before and behind. -/
theorem exists_adds_blocks {f : Forest} (hway : IsWay stop q entries next) (hw : Holds entries w)
    (hmade : next < w.1.states) (htaken : ∀ e ∈ entries, placeOf e.1 ∈ taken)
    (hnew : ∀ byte ∈ f.roots, w.2.find? (keyOf next byte) = none) (hasc : f.IsAscending)
    (hclear : IsClear taken next w.1.states f) :
    ∃ w', Adds stop next q entries f.roots f.size f.blocks w w' := by
  induction f generalizing q entries next taken w with
  | nil => exact ⟨w, rfl, rfl, hw, fun _ _ _ _ hfind => Or.inl hfind⟩
  | cons byte below rest ihBelow ihRest =>
    obtain ⟨hroots, hascBelow, hascRest⟩ := hasc
    obtain ⟨hspot, hclearBelow, hclearRest⟩ := hclear
    obtain ⟨hnewByte, hnewRest⟩ := List.forall_mem_cons.mp hnew
    have hnode := hw.withNode hmade htaken hspot
    have hwayBelow := hway.append byte byte w.1.states
    -- Below the node stands a forest, or a block ends there.
    obtain ⟨w', hbelow⟩ : ∃ w', Adds stop w.1.states (q ++ [only byte])
        (entries ++ [(keyOf next byte, w.1.states)]) below.roots below.size below.waysOn
        (withNode next byte w) w' := by
      cases below with
      | nil => exact ⟨_, .here hwayBelow hnode⟩
      | cons c f g =>
        refine ihBelow hwayBelow hnode (Nat.lt_succ_self _) (List.forall_mem_append.mpr ⟨?_, ?_⟩)
          (fun c _ => find?_withNode_eq_none hw hmade c) hascBelow hclearBelow
        · exact fun e he => List.mem_cons_of_mem _ (htaken e he)
        · exact List.forall_mem_singleton.mpr List.mem_cons_self
    have hfirst := hbelow.node below.waysOn_ne_nil hway hw hnode hnewByte
    have hstates : w'.1.states = w.1.states + 1 + below.size := by
      rw [hfirst.draft, Nat.add_assoc]
    -- Behind that, the other roots are as new as before.
    have hnewBehind : ∀ c ∈ rest.roots, w'.2.find? (keyOf next c) = none := by
      intro c hc
      by_contra hsome
      rcases hfirst.news next c c hmade hsome with hfind | ⟨-, hbyte⟩
      · exact hfind (hnewRest c hc)
      · obtain rfl := List.mem_singleton.mp hbyte
        exact absurd (hroots c hc) (Nat.lt_irrefl c)
    obtain ⟨w'', hrest⟩ := ihRest hway hfirst.holds (by omega) htaken hnewBehind hascRest
      (by rwa [hstates])
    refine ⟨w'', ?_⟩
    rw [Forest.blocks_cons]
    exact hfirst.append hrest

/-- **No more than a state for each node** in the whole automaton. -/
theorem addBackward_blocks {f : Forest} (hasc : f.IsAscending) {d : Draft}
    (hclear : IsClear [] (d.states + 1) (d.states + 2) f) :
    addBackward f.blocks d =
      ⟨d.states + 2 + f.size, d.extra + branchSize * f.blocks.length⟩ := by
  have hheld : Holds [] (start (d.states + 1) d.extra) := by
    refine ⟨rfl, nofun, fun next lo hi s hs => ?_⟩
    rw [start, Recall.find?_empty] at hs
    cases hs
  obtain ⟨w', hadds⟩ := exists_adds_blocks (.nil (d.states + 1)) hheld (Nat.lt_succ_self _) nofun
    (fun _ _ => Recall.find?_empty _ _) hasc hclear
  have hrun := hadds.run
  simp only [List.nil_append, List.map_id'] at hrun
  rw [addBackward_eq, hrun, hadds.draft]
  rfl

end

end PackQuery.Regex.Room
