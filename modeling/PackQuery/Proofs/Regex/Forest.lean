import Mathlib.Data.List.Nodup
import PackQuery.Proofs.Text.Utf8Block

/-!
# Forests of bytes

The UTF-8 forms of single characters are blocks of single bytes, and together they form a forest:
forms that begin alike share the bytes of that beginning. The ways from its roots to its leaves are
the blocks (`Forest.blocks`), and its nodes stand for their beginnings (`Forest.beginnings`).

If the bytes of siblings ascend, so do the blocks: of any two the first one precedes the second
(`pairwise_blocks`). The blocks with the same root are a tree (`Forest.trees`), and those that also
have the same second byte are a part (`Forest.parts`). A forest whose roots have bytes with equal
steps between them is a row (`Forest.row`).
-/

namespace PackQuery.Regex

open Text.Utf8Block (Block Precedes only)

/-- A forest of bytes. -/
inductive Forest where
  | nil
  /-- A root with the forest below it, and the other trees. -/
  | cons (byte : Nat) (below rest : Forest)

namespace Forest

/-- The ways from the roots to the leaves. -/
def blocks : Forest → List Block
  | nil => []
  | cons byte nil rest => [only byte] :: rest.blocks
  | cons byte (cons c below others) rest =>
    (cons c below others).blocks.map (only byte :: ·) ++ rest.blocks

/-- The ways on from a node with a forest below it. -/
def waysOn : Forest → List Block
  | nil => [[]]
  | f => f.blocks

theorem blocks_cons (byte : Nat) (below rest : Forest) :
    (cons byte below rest).blocks = below.waysOn.map (only byte :: ·) ++ rest.blocks := by
  cases below <;> rfl

theorem length_blocks_cons (byte : Nat) (below rest : Forest) :
    (cons byte below rest).blocks.length = below.waysOn.length + rest.blocks.length := by
  rw [blocks_cons, List.length_append, List.length_map]

/-- How many nodes there are. -/
def size : Forest → Nat
  | nil => 0
  | cons _ below rest => 1 + below.size + rest.size

/-- The bytes of the roots. -/
def roots : Forest → List Nat
  | nil => []
  | cons byte _ rest => byte :: rest.roots

/-- Whether the bytes of roots ascend, and those below every node. -/
def IsAscending : Forest → Prop
  | nil => True
  | cons byte below rest =>
    (∀ c ∈ rest.roots, byte < c) ∧ below.IsAscending ∧ rest.IsAscending

/-- The ways from the roots to all nodes. -/
def beginnings : Forest → List Block
  | nil => []
  | cons byte below rest =>
    [only byte] :: (below.beginnings.map (only byte :: ·) ++ rest.beginnings)

theorem waysOn_eq {f : Forest} (h : f ≠ nil) : f.waysOn = f.blocks := by
  cases f with
  | nil => exact absurd rfl h
  | cons byte below rest => rfl

theorem waysOn_ne_nil (f : Forest) : f.waysOn ≠ [] := by
  match f with
  | nil => exact List.cons_ne_nil _ _
  | cons byte nil rest => exact List.cons_ne_nil _ _
  | cons byte (cons c below others) rest =>
    have hne := waysOn_ne_nil (cons c below others)
    rw [waysOn, blocks_cons]
    · exact List.append_ne_nil_of_left_ne_nil (mt List.map_eq_nil_iff.mp hne) _
    · exact nofun

theorem length_beginnings (f : Forest) : f.beginnings.length = f.size := by
  induction f with
  | nil => rfl
  | cons byte below rest ihBelow ihRest =>
    simp only [beginnings, size, List.length_cons, List.length_append, List.length_map, ihBelow,
      ihRest]
    omega

theorem head?_mem_roots {f : Forest} {q : Block} (h : q ∈ f.beginnings) :
    ∃ byte rest, q = only byte :: rest ∧ byte ∈ f.roots := by
  induction f with
  | nil => cases h
  | cons byte below others _ ih =>
    simp only [beginnings, List.mem_cons, List.mem_append, List.mem_map] at h
    rcases h with rfl | ⟨q, -, rfl⟩ | h
    · exact ⟨byte, [], rfl, List.mem_cons_self⟩
    · exact ⟨byte, q, rfl, List.mem_cons_self⟩
    · obtain ⟨c, rest, rfl, hc⟩ := ih h
      exact ⟨c, rest, rfl, List.mem_cons_of_mem byte hc⟩

/-- A block starts with a root. -/
theorem exists_root_of_mem_blocks {f : Forest} {b : Block} (h : b ∈ f.blocks) :
    ∃ byte rest, b = only byte :: rest ∧ byte ∈ f.roots := by
  induction f with
  | nil => cases h
  | cons byte below others _ ih =>
    rw [blocks_cons, List.mem_append, List.mem_map] at h
    rcases h with ⟨q, -, rfl⟩ | h
    · exact ⟨byte, q, rfl, List.mem_cons_self⟩
    · obtain ⟨c, rest, rfl, hc⟩ := ih h
      exact ⟨c, rest, rfl, List.mem_cons_of_mem byte hc⟩

/-- Different nodes have different beginnings. -/
theorem nodup_beginnings {f : Forest} (h : f.IsAscending) : f.beginnings.Nodup := by
  induction f with
  | nil => exact List.nodup_nil
  | cons byte below rest ihBelow ihRest =>
    obtain ⟨hroots, hbelow, hrest⟩ := h
    have hother : ∀ q, only byte :: q ∉ rest.beginnings := by
      intro q hq
      obtain ⟨c, q', heq, hc⟩ := head?_mem_roots hq
      have hbyte : byte = c := (Prod.mk.inj (List.cons.inj heq).1).1
      exact absurd (hroots c hc) (by omega)
    rw [beginnings, List.nodup_cons, List.mem_append, List.mem_map, List.nodup_append]
    refine ⟨?_, (ihBelow hbelow).map List.cons_injective, ihRest hrest, ?_⟩
    · rintro (⟨q, hq, heq⟩ | hq)
      · obtain ⟨c, q', rfl, -⟩ := head?_mem_roots hq
        cases heq
      · exact hother [] hq
    · rintro _ hq q' hq' rfl
      obtain ⟨q, -, rfl⟩ := List.mem_map.mp hq
      exact hother q hq'

/-- Every beginning is one of a block. -/
theorem exists_block_of_mem_beginnings {f : Forest} {q : Block} (h : q ∈ f.beginnings) :
    ∃ b ∈ f.blocks, q <+: b := by
  induction f generalizing q with
  | nil => cases h
  | cons byte below rest ihBelow ihRest =>
    simp only [beginnings, List.mem_cons, List.mem_append, List.mem_map] at h
    rw [blocks_cons]
    rcases h with rfl | ⟨q, hq, rfl⟩ | h
    · obtain ⟨b, hb⟩ := List.exists_mem_of_ne_nil _ (waysOn_ne_nil below)
      refine ⟨only byte :: b, List.mem_append_left _ (List.mem_map_of_mem hb), ?_⟩
      exact List.prefix_append [only byte] b
    · cases below with
      | nil => cases hq
      | cons c f g =>
        obtain ⟨b, hb, hprefix⟩ := ihBelow hq
        refine ⟨only byte :: b, List.mem_append_left _ (List.mem_map_of_mem hb), ?_⟩
        exact (List.prefix_cons_inj _).mpr hprefix
    · obtain ⟨b, hb, hprefix⟩ := ihRest h
      exact ⟨b, List.mem_append_right _ hb, hprefix⟩

/-! ## Trees -/

/-- The blocks of a forest, those with the same root together. -/
def trees : Forest → List (List Block)
  | nil => []
  | cons byte below rest => below.waysOn.map (only byte :: ·) :: rest.trees

theorem flatten_trees (f : Forest) : f.trees.flatten = f.blocks := by
  induction f with
  | nil => rfl
  | cons byte below rest _ ih => rw [trees, List.flatten_cons, ih, blocks_cons]

theorem exists_of_mem_trees {f : Forest} {t : List Block} (h : t ∈ f.trees) :
    ∃ byte ∈ f.roots, ∃ bs ≠ [], t = bs.map (only byte :: ·) := by
  induction f with
  | nil => cases h
  | cons byte below rest _ ih =>
    rcases List.mem_cons.mp h with rfl | h
    · exact ⟨byte, List.mem_cons_self, _, below.waysOn_ne_nil, rfl⟩
    · obtain ⟨c, hc, ht⟩ := ih h
      exact ⟨c, List.mem_cons_of_mem byte hc, ht⟩

/-- The trees of the ways on from a node. -/
def treesOn : Forest → List (List Block)
  | nil => [[[]]]
  | f => f.trees

/-- The blocks of a forest, those with the same root and the same byte behind it together. -/
def parts : Forest → List (List Block)
  | nil => []
  | cons byte below rest => below.treesOn.map (List.map (only byte :: ·)) ++ rest.parts

theorem flatten_treesOn (f : Forest) : f.treesOn.flatten = f.waysOn := by
  cases f with
  | nil => rfl
  | cons byte below rest => exact flatten_trees _

theorem flatten_parts (f : Forest) : f.parts.flatten = f.blocks := by
  induction f with
  | nil => rfl
  | cons byte below rest _ ih =>
    rw [parts, List.flatten_append, ← List.map_flatten, flatten_treesOn, ih, blocks_cons]

theorem ne_nil_of_mem_parts {f : Forest} {t : List Block} (h : t ∈ f.parts) : t ≠ [] := by
  induction f with
  | nil => cases h
  | cons byte below rest _ ih =>
    rcases List.mem_append.mp h with h | h
    · obtain ⟨u, hu, rfl⟩ := List.mem_map.mp h
      refine mt List.map_eq_nil_iff.mp ?_
      cases below with
      | nil =>
        rw [List.mem_singleton.mp hu]
        exact List.cons_ne_nil _ _
      | cons c f g =>
        obtain ⟨_, -, bs, hne, rfl⟩ := exists_of_mem_trees hu
        exact mt List.map_eq_nil_iff.mp hne
    · exact ih h

/-! ## Order -/

/-- **The blocks of a forest ascend.** -/
theorem pairwise_blocks {f : Forest} (h : f.IsAscending) : f.blocks.Pairwise Precedes := by
  induction f with
  | nil => exact .nil
  | cons byte below rest ihBelow ihRest =>
    obtain ⟨hroots, hbelow, hrest⟩ := h
    have hways : below.waysOn.Pairwise Precedes := by
      cases below with
      | nil => exact List.pairwise_singleton _ _
      | cons c f g => exact ihBelow hbelow
    rw [blocks_cons, List.pairwise_append, List.pairwise_map]
    refine ⟨hways.imp (Precedes.cons byte), ihRest hrest, fun q hq q' hq' => ?_⟩
    obtain ⟨w, -, rfl⟩ := List.mem_map.mp hq
    obtain ⟨c, w', rfl, hc⟩ := exists_root_of_mem_blocks hq'
    exact ⟨[], byte, c, w, w', rfl, rfl, hroots c hc⟩

/-! ## Rows -/

/-- A forest of some forests, each below a root. The bytes of the roots start with `byte` and have
steps of `step` between them. -/
def row (byte step : Nat) : List Forest → Forest
  | [] => nil
  | below :: rest => cons byte below (row (byte + step) step rest)

section
variable {byte step : Nat} {fs : List Forest}

theorem row_ne_nil (h : fs ≠ []) : row byte step fs ≠ nil := by
  obtain ⟨f, fs, rfl⟩ := List.exists_cons_of_ne_nil h
  exact nofun

theorem le_of_mem_roots_row {c : Nat} (h : c ∈ (row byte step fs).roots) : byte ≤ c := by
  induction fs generalizing byte with
  | nil => cases h
  | cons f fs ih =>
    rcases List.mem_cons.mp h with rfl | h
    · exact Nat.le_refl c
    · exact Nat.le_trans (Nat.le_add_right byte step) (ih h)

theorem isAscending_row (hstep : 0 < step) (h : ∀ f ∈ fs, f.IsAscending) :
    (row byte step fs).IsAscending := by
  induction fs generalizing byte with
  | nil => trivial
  | cons f fs ih =>
    obtain ⟨hf, hfs⟩ := List.forall_mem_cons.mp h
    refine ⟨fun c hc => ?_, hf, ih hfs⟩
    have hle := le_of_mem_roots_row hc
    omega

theorem exists_of_mem_blocks_row {q : Block} (h : q ∈ (row byte step fs).blocks) :
    ∃ i < fs.length, ∃ f ∈ fs, ∃ w ∈ f.waysOn, q = only (byte + step * i) :: w := by
  induction fs generalizing byte with
  | nil => cases h
  | cons f fs ih =>
    rw [row, blocks_cons, List.mem_append, List.mem_map] at h
    rcases h with ⟨w, hw, rfl⟩ | h
    · exact ⟨0, Nat.zero_lt_succ _, f, List.mem_cons_self, w, hw, rfl⟩
    · obtain ⟨i, hi, g, hg, w, hw, rfl⟩ := ih h
      refine ⟨i + 1, Nat.succ_lt_succ hi, g, List.mem_cons_of_mem f hg, w, hw, ?_⟩
      rw [Nat.mul_succ, Nat.add_assoc, Nat.add_comm step]

end

end Forest

end PackQuery.Regex
