import Mathlib.Data.List.SplitBy
import PackQuery.Proofs.Regex.Forest
import PackQuery.Proofs.Regex.Room

/-!
# The room of a set in a forward automaton

A forward automaton has a trie of the blocks of a set. The trie of a forest has the nodes of the
forest, each with an arc, and a state for the forest below each node (`Forest.trieRoom`). Equal
nodes are one state, so it may be less (`bytes_addForward_le`).
-/

namespace PackQuery.Regex

open Text.Utf8Block (Block only)

namespace Forest

/-- Whether two blocks begin with the same byte. -/
def sameHead (b c : Block) : Bool := b.head? == c.head?

theorem isChain_trees {f : Forest} (h : f.IsAscending) :
    f.trees.IsChain fun t u => ∃ ht hu, sameHead (t.getLast ht) (u.head hu) = false := by
  induction f with
  | nil => exact .nil
  | cons byte below rest _ ih =>
    obtain ⟨hroots, -, hrest⟩ := h
    refine List.isChain_cons.mpr ⟨fun u hu => ?_, ih hrest⟩
    obtain ⟨c, hc, bs, hne, rfl⟩ := exists_of_mem_trees (List.mem_of_mem_head? hu)
    refine ⟨mt List.map_eq_nil_iff.mp below.waysOn_ne_nil, mt List.map_eq_nil_iff.mp hne, ?_⟩
    have hbyte : some (only byte) ≠ some (only c) := by
      intro heq
      have hlt := hroots c hc
      cases heq
      exact Nat.lt_irrefl byte hlt
    rw [List.getLast_map, List.head_map]
    exact beq_eq_false_iff_ne.mpr hbyte

/-- The bytes of the roots tell the trees apart. -/
theorem splitBy_blocks {f : Forest} (h : f.IsAscending) : f.blocks.splitBy sameHead = f.trees := by
  rw [← flatten_trees]
  refine List.splitBy_flatten (fun hnil => ?_) (fun t ht => ?_) (isChain_trees h)
  · obtain ⟨_, -, bs, hne, heq⟩ := exists_of_mem_trees hnil
    exact hne (List.map_eq_nil_iff.mp heq.symm)
  · obtain ⟨byte, -, bs, -, rfl⟩ := exists_of_mem_trees ht
    refine List.Pairwise.isChain (List.pairwise_map.mpr (List.pairwise_of_forall fun b c => ?_))
    exact beq_self_eq_true (some (only byte))

/-- The bytes of a trie beside those of the state that stands for it. -/
def trieRoom : Forest → Nat
  | nil => 0
  | cons _ nil rest => Room.arcSize + rest.trieRoom
  | cons _ (cons c below others) rest =>
    Room.arcSize + (Room.stateSize + (cons c below others).trieRoom) + rest.trieRoom

/-- The bytes of the trie of the ways on from a node. -/
def roomBelow : Forest → Nat
  | nil => 0
  | f => Room.stateSize + f.trieRoom

theorem roomBelow_eq {f : Forest} (h : f ≠ nil) :
    f.roomBelow = Room.stateSize + f.trieRoom := by
  cases f with
  | nil => exact absurd rfl h
  | cons byte below rest => rfl

theorem trieRoom_cons (byte : Nat) (below rest : Forest) :
    (cons byte below rest).trieRoom = Room.arcSize + below.roomBelow + rest.trieRoom := by
  cases below <;> rfl

/-- Each node takes an arc, and each node that is not the end of a block takes a state. -/
theorem trieRoom_add (f : Forest) :
    f.trieRoom + Room.stateSize * f.blocks.length = (Room.arcSize + Room.stateSize) * f.size := by
  induction f with
  | nil => rfl
  | cons byte below rest ihBelow ihRest =>
    have hbelow : below.roomBelow + Room.stateSize * below.waysOn.length =
        Room.stateSize + (Room.arcSize + Room.stateSize) * below.size := by
      by_cases hne : below = nil
      · rw [hne]
        rfl
      · rw [roomBelow_eq hne, waysOn_eq hne, Nat.add_assoc, ihBelow]
    rw [trieRoom_cons, length_blocks_cons, size]
    simp only [Room.stateSize, Room.arcSize] at hbelow ihRest ⊢
    omega

end Forest

namespace Room

/-! ## Tries -/

theorem bytes_node_le (key : List Nat) (n : Nat) (w : Work) :
    (node key (·.addArcs n) w).2.1.bytes ≤ w.1.bytes + stateSize + arcSize * n := by
  obtain ⟨d, r⟩ := w
  rw [node.eq_def]
  dsimp only
  split
  · exact Nat.le_trans (Nat.le_add_right _ _) (Nat.le_add_right _ _)
  · simp only [Draft.addArcs, Draft.bytes, Nat.mul_succ]
    omega

/-- Adds the tree of some blocks with the same root to the key of the node above it. -/
def addTree (next depth : Nat) (acc : List Nat × Work) (bs : List Block) : List Nat × Work :=
  let range := (bs.head?.bind List.head?).getD (0, 0)
  let below := trie next depth (bs.map List.tail) acc.2
  (acc.1 ++ [range.1, range.2, below.1], below.2)

theorem trie_succ (next depth : Nat) (bs : List Block) (w : Work) :
    trie next (depth + 1) bs w =
      if bs.all List.isEmpty then (next, w)
      else
        let acc := (bs.splitBy Forest.sameHead).foldl (addTree next depth) ([], w)
        node acc.1 (·.addArcs (bs.splitBy Forest.sameHead).length) acc.2 := rfl

theorem bytes_addTree (next depth byte : Nat) (bs : List Block) (acc : List Nat × Work) :
    (addTree next depth acc (bs.map (only byte :: ·))).2 = (trie next depth bs acc.2).2 := by
  simp [addTree, Function.comp_def]

/-- The trees of a forest take no more than the nodes of the forest, if that is so of the trie below
each root. -/
theorem bytes_foldl_addTree_le {next depth : Nat}
    (hbelow : ∀ {f : Forest}, f.IsAscending → ∀ w,
      (trie next depth f.waysOn w).2.1.bytes ≤ w.1.bytes + f.roomBelow)
    {f : Forest} (h : f.IsAscending) (acc : List Nat × Work) :
    (f.trees.foldl (addTree next depth) acc).2.1.bytes + arcSize * f.trees.length ≤
      acc.2.1.bytes + f.trieRoom := by
  induction f generalizing acc with
  | nil => exact Nat.le_refl _
  | cons byte below rest _ ih =>
    obtain ⟨-, hascBelow, hascRest⟩ := h
    have htree := hbelow hascBelow acc.2
    have hrest := ih hascRest (addTree next depth acc (below.waysOn.map (only byte :: ·)))
    rw [bytes_addTree] at hrest
    rw [Forest.trees, List.foldl_cons, List.length_cons, Forest.trieRoom_cons, Nat.mul_succ]
    omega

/-- **A trie takes no more than the nodes of its forest.** -/
theorem bytes_trie_le (next depth : Nat) {f : Forest} (h : f.IsAscending) (w : Work) :
    (trie next depth f.waysOn w).2.1.bytes ≤ w.1.bytes + f.roomBelow := by
  induction depth generalizing f w with
  | zero => exact Nat.le_add_right _ _
  | succ depth ih =>
    rw [trie_succ]
    split_ifs with hempty
    · exact Nat.le_add_right _ _
    · have hne : f ≠ .nil := by
        rintro rfl
        exact hempty rfl
      have hfold := bytes_foldl_addTree_le ih h ([], w)
      have hnode := bytes_node_le (f.trees.foldl (addTree next depth) ([], w)).1 f.trees.length
        (f.trees.foldl (addTree next depth) ([], w)).2
      dsimp only at hfold ⊢
      rw [Forest.waysOn_eq hne, Forest.splitBy_blocks h, Forest.roomBelow_eq hne]
      omega

/-- **A forest takes no more than its nodes** in a forward automaton. -/
theorem bytes_addForward_le {f : Forest} (h : f.IsAscending) (hne : f ≠ .nil) (d : Draft) :
    (addForward f.blocks d).bytes + stateSize * f.blocks.length ≤
      d.bytes + 2 * stateSize + (arcSize + stateSize) * f.size := by
  have htrie := bytes_trie_le d.states 5 h (d.addStates 1, { places := forwardPlaces })
  have hroom := f.trieRoom_add
  rw [Forest.waysOn_eq hne, Forest.roomBelow_eq hne, Draft.bytes_addStates] at htrie
  rw [addForward]
  dsimp only
  omega

end Room

end PackQuery.Regex
