import PackQuery.Proofs.Regex.BackwardRoom
import PackQuery.Proofs.Regex.ClassList
import PackQuery.Proofs.Regex.ForwardRoom

/-!
# A broad forest

A class may have room in a pattern and none on its own. That is so for a class of 282337
characters, whose forms are the blocks of `broad`. Read backward, a pattern of that class and one
more character takes a state for each node of the forest, a branch for each block and a few states
more, which leaves 60 bytes. No node drives out one that is still needed (`isClear_broad`). The
class on its own takes one state less for the character. But it starts one state earlier, and then
three nodes are driven out and made again (`states_narrow`), which is more than the 60 bytes.

**Why the forest is clear.** The remainder of a place by four is known. Below each node for a third
byte but the first one stand 29 leaves, so the states of these nodes are 30 apart, and the remainder
goes up by two with the byte. So neither the nodes nor their leaves come to the place of a node
above them (`isClear_others`). What is left are the nodes for the second bytes and the two leaves
below the first node of each (`IsFree`), which are checked one by one.

The characters are listed in parts, one for each second byte (`members`).
-/

namespace PackQuery.Regex

open Text.Utf8Block (Block only)

namespace Forest

/-! ## The forest -/

/-- A row of `full` forests that are the same, and a last one. -/
def alike (byte full : Nat) (f last : Forest) : Forest :=
  row byte 1 (List.replicate full f ++ [last])

/-- Leaves with every other byte. -/
def leaves (count : Nat) : Forest := row 0x80 2 (List.replicate count nil)

/-- The nodes for the third bytes: the first one with two leaves, `full` others with 29 leaves each,
and one with `last` leaves. -/
def thirds (full last : Nat) : Forest :=
  cons 0x80 (leaves 2) (alike 0x81 full (leaves 29) (leaves last))

/-- The nodes for the second bytes, `full` of them alike. -/
def seconds (full : Nat) (last : Forest) : Forest := alike 0x80 full (thirds 62 29) last

/-- What stands below the first root. -/
def narrow : Forest := row 0x90 1 [row 0x80 1 [leaves 16, leaves 5]]

/-- The other trees. -/
def wide : Forest :=
  row 0xF1 1
    [seconds 63 (thirds 62 28), seconds 63 (thirds 62 28), seconds 26 (thirds 22 12)]

/-- The broad forest. -/
def broad : Forest := cons 0xF0 narrow wide

section
variable {byte count full last : Nat} {f g : Forest}

theorem forall_mem_alike {P : Forest → Prop} (hf : P f) (hg : P g) (full : Nat) :
    ∀ h ∈ List.replicate full f ++ [g], P h := by
  intro h hmem
  rcases List.mem_append.mp hmem with hmem | hmem
  · rw [List.eq_of_mem_replicate hmem]
    exact hf
  · rw [List.mem_singleton.mp hmem]
    exact hg

/-! ### Size -/

theorem size_alike : (alike byte full f g).size = (f.size + 1) * full + g.size + 1 := by
  induction full generalizing byte with
  | zero =>
    show 1 + g.size + 0 = _
    omega
  | succ full ih =>
    show 1 + f.size + (alike (byte + 1) full f g).size = _
    rw [ih, Nat.mul_succ]
    omega

theorem size_leaves (count : Nat) : (leaves count).size = count := by
  have hrow : ∀ byte, (row byte 2 (List.replicate count nil)).size = count := by
    induction count with
    | zero => exact fun _ => rfl
    | succ count ih =>
      intro byte
      show 1 + 0 + (row (byte + 2) 2 (List.replicate count nil)).size = _
      rw [ih, Nat.add_comm]
  exact hrow 0x80

theorem size_thirds : (thirds full last).size = 30 * full + last + 4 := by
  rw [thirds, size, size_alike, size_leaves, size_leaves, size_leaves]
  omega

theorem size_seconds : (seconds full f).size = 1894 * full + f.size + 1 := by
  rw [seconds, size_alike, size_thirds]

theorem size_narrow : narrow.size = 24 := rfl

theorem size_wide : wide.size = 292354 := by
  simp only [wide, row, size, size_seconds, size_thirds]

theorem size_broad : broad.size = 292379 := by
  rw [broad, size, size_narrow, size_wide]

theorem alike_ne_nil : alike byte full f g ≠ nil :=
  row_ne_nil (List.append_ne_nil_of_right_ne_nil _ (List.cons_ne_nil g []))

theorem length_alike :
    (alike byte full f g).blocks.length = f.waysOn.length * full + g.waysOn.length := by
  induction full generalizing byte with
  | zero =>
    show (cons byte g nil).blocks.length = _
    rw [length_blocks_cons, Nat.mul_zero, Nat.zero_add]
    rfl
  | succ full ih =>
    show (cons byte f (alike (byte + 1) full f g)).blocks.length = _
    rw [length_blocks_cons, ih, Nat.mul_succ]
    omega

theorem leaves_ne_nil (h : 0 < count) : leaves count ≠ nil :=
  row_ne_nil (by simpa using Nat.ne_of_gt h)

theorem length_leaves (h : 0 < count) : (leaves count).waysOn.length = count := by
  have hrow : ∀ n byte, (row byte 2 (List.replicate n nil)).blocks.length = n := by
    intro n
    induction n with
    | zero => exact fun _ => rfl
    | succ n ih =>
      intro byte
      show (cons byte nil (row (byte + 2) 2 (List.replicate n nil))).blocks.length = _
      rw [length_blocks_cons, ih, Nat.add_comm]
      rfl
  rw [waysOn_eq (leaves_ne_nil h), leaves, hrow]

theorem thirds_ne_nil : thirds full last ≠ nil := by
  rw [thirds]
  exact nofun

theorem length_thirds (h : 0 < last) :
    (thirds full last).waysOn.length = 29 * full + last + 2 := by
  rw [waysOn_eq thirds_ne_nil, thirds, length_blocks_cons, length_alike, length_leaves (by decide),
    length_leaves (by decide), length_leaves h]
  omega

theorem length_seconds : (seconds full f).waysOn.length = 1829 * full + f.waysOn.length := by
  rw [seconds, waysOn_eq alike_ne_nil, length_alike, length_thirds (by decide)]

theorem length_wide : wide.blocks.length = 282316 := by
  simp only [wide, row, length_blocks_cons, length_seconds, length_thirds (Nat.succ_pos _)]
  rfl

theorem length_broad : broad.blocks.length = 282337 := by
  rw [broad, length_blocks_cons, length_wide]
  rfl

/-! ### Order -/

theorem isAscending_alike (hf : f.IsAscending) (hg : g.IsAscending) :
    (alike byte full f g).IsAscending :=
  isAscending_row (by decide) (forall_mem_alike hf hg full)

theorem isAscending_leaves (count : Nat) : (leaves count).IsAscending :=
  isAscending_row (by decide) (by simp [IsAscending])

theorem isAscending_thirds (full last : Nat) : (thirds full last).IsAscending :=
  ⟨fun _ hc => le_of_mem_roots_row hc, isAscending_leaves 2,
    isAscending_alike (isAscending_leaves 29) (isAscending_leaves last)⟩

theorem isAscending_wide : wide.IsAscending := by
  refine isAscending_row (by decide) ?_
  simp [seconds, isAscending_alike, isAscending_thirds]

theorem isAscending_broad : broad.IsAscending := by
  refine ⟨fun _ hc => le_of_mem_roots_row hc, ?_, isAscending_wide⟩
  refine isAscending_row (by decide) (List.forall_mem_singleton.mpr ?_)
  refine isAscending_row (by decide) ?_
  simp [isAscending_leaves]

end

end Forest

namespace Room

open Forest

variable {taken : List Nat} {next n b byte count full last l m i p : Nat}

/-! ## Why the forest is clear -/

theorem isClear_leaves (h : ∀ j < count, placeOf (keyOf next (byte + 2 * j)) ∉ taken) :
    IsClear taken next n (row byte 2 (List.replicate count .nil)) := by
  induction count generalizing byte n with
  | zero => trivial
  | succ count ih =>
    refine ⟨h 0 (Nat.zero_lt_succ _), trivial, ih fun j hj => ?_⟩
    have hnext := h (j + 1) (Nat.succ_lt_succ hj)
    rwa [Nat.mul_succ, Nat.add_comm (2 * j), ← Nat.add_assoc] at hnext

/-- The nodes for third bytes behind the first one are clear of places that are even or odd as the
state above them is. -/
theorem isClear_others (hn : n % 4 = (next + 2 * b + 2) % 4)
    (htaken : ∀ p ∈ taken, p % 2 = next % 2) :
    IsClear taken next n (alike b full (leaves 29) (leaves last)) := by
  have hplace : ∀ b, placeOf (keyOf next b) ∉ taken := by
    intro b hmem
    have hparity := htaken _ hmem
    have hmod := placeOf_keyOf_mod next b
    omega
  have hleaves : ∀ {n b} count, n % 4 = (next + 2 * b + 2) % 4 →
      IsClear (placeOf (keyOf next b) :: taken) n (n + 1) (leaves count) := by
    intro n b count hn
    refine isClear_leaves fun j _ hmem => ?_
    have hmod := placeOf_keyOf_mod next b
    have hleaf := placeOf_keyOf_mod n (0x80 + 2 * j)
    rcases List.mem_cons.mp hmem with heq | hmem
    · omega
    · have hparity := htaken _ hmem
      omega
  induction full generalizing n b with
  | zero => exact ⟨hplace b, hleaves last hn, trivial⟩
  | succ full ih =>
    refine ⟨hplace b, hleaves 29 hn, ih (b := b + 1) ?_⟩
    rw [size_leaves]
    omega

/-- The two leaves below the first node have places of the same parity as those above. They are
clear of the place of the node for the second byte, since the remainders by four differ. That they
are clear of the place `p` above it must be known. -/
theorem isClear_thirds (hm : m % 4 = (l + 1 + 2 * byte) % 4) (hp : p % 2 = m % 2)
    (hfirst : placeOf (keyOf (m + 1) 0x80) ≠ p) (hsecond : placeOf (keyOf (m + 1) 0x82) ≠ p) :
    IsClear [placeOf (keyOf l byte), p] m (m + 1) (thirds full last) := by
  have habove := placeOf_keyOf_mod l byte
  have hplace := placeOf_keyOf_mod m 0x80
  have hparity : ∀ p' ∈ [placeOf (keyOf l byte), p], p' % 2 = m % 2 := by
    rw [List.forall_mem_cons, List.forall_mem_singleton]
    omega
  refine ⟨fun hmem => ?_, isClear_leaves fun j hj => ?_, isClear_others ?_ hparity⟩
  · have hodd := hparity _ hmem
    omega
  · have hleaf := placeOf_keyOf_mod (m + 1) (0x80 + 2 * j)
    have hlast : placeOf (keyOf (m + 1) (0x80 + 2 * j)) ≠ p := by
      rcases Nat.lt_succ_iff_lt_or_eq.mp hj with hj | rfl
      · rw [Nat.lt_one_iff.mp hj]
        exact hfirst
      · exact hsecond
    rw [List.mem_cons, List.mem_cons, List.mem_singleton]
    omega
  · rw [size_leaves]
    omega

/-- Whether the `i`-th node for a second byte and the leaves below its first node are clear of a
place. The node above has the state `l`. -/
def IsFree (p l i : Nat) : Prop :=
  placeOf (keyOf l (0x80 + i)) ≠ p ∧ placeOf (keyOf (l + 2 + 1894 * i) 0x80) ≠ p ∧
    placeOf (keyOf (l + 2 + 1894 * i) 0x82) ≠ p

instance (p l i : Nat) : Decidable (IsFree p l i) := inferInstanceAs (Decidable (_ ∧ _ ∧ _))

/-- The forest below a root is clear of the place of that root, if the few nodes that might come to
it do not. -/
theorem isClear_seconds {others : Nat} (hp : p % 2 = (l + 1) % 2) (hn : n = l + 1 + 1894 * i)
    (hfree : ∀ j < full + 1, IsFree p l (i + j)) :
    IsClear [p] l n (alike (0x80 + i) full (thirds 62 29) (thirds others last)) := by
  have hthirds : ∀ {n i others last}, n = l + 1 + 1894 * i → IsFree p l i →
      IsClear [placeOf (keyOf l (0x80 + i)), p] n (n + 1) (thirds others last) := by
    rintro _ i others last rfl ⟨-, hfirst, hsecond⟩
    have hstate : l + 1 + 1894 * i + 1 = l + 2 + 1894 * i := by omega
    rw [← hstate] at hfirst hsecond
    exact isClear_thirds (by omega) (by omega) hfirst hsecond
  induction full generalizing n i with
  | zero =>
    have hthis := hfree 0 Nat.one_pos
    exact ⟨mt List.mem_singleton.mp hthis.1, hthirds hn hthis, trivial⟩
  | succ full ih =>
    have hthis := hfree 0 (Nat.succ_pos _)
    refine ⟨mt List.mem_singleton.mp hthis.1, hthirds hn hthis,
      ih (i := i + 1) ?_ fun j hj => ?_⟩
    · rw [size_thirds]
      omega
    · rw [Nat.add_right_comm i 1 j]
      exact hfree (j + 1) (Nat.succ_lt_succ hj)

theorem isClear_tree {others : Nat} (hp : placeOf (keyOf 4 byte) % 2 = (l + 1) % 2)
    (hfree : ∀ j < full + 1, IsFree (placeOf (keyOf 4 byte)) l j) :
    IsClear [placeOf (keyOf 4 byte)] l (l + 1) (seconds full (thirds others last)) := by
  refine isClear_seconds (i := 0) hp rfl fun j hj => ?_
  rw [Nat.zero_add]
  exact hfree j hj

theorem isClear_narrow : IsClear [placeOf (keyOf 4 0xF0)] 5 6 narrow := by decide +kernel

theorem isClear_broad : IsClear [] 4 5 broad := by
  refine ⟨List.not_mem_nil, isClear_narrow, ?_⟩
  rw [size_narrow]
  refine ⟨List.not_mem_nil, isClear_tree (by decide +kernel) (by decide +kernel), ?_⟩
  rw [size_seconds, size_thirds]
  refine ⟨List.not_mem_nil, isClear_tree (by decide +kernel) (by decide +kernel), ?_⟩
  rw [size_seconds, size_thirds]
  exact ⟨List.not_mem_nil, isClear_tree (by decide +kernel) (by decide +kernel), trivial⟩

/-! ## The room of the broad forest -/

/-- **Behind a character the broad forest takes a state for each node.** -/
theorem addBackward_broad :
    addBackward broad.blocks { states := 3 } = ⟨292384, branchSize * 282337⟩ := by
  have hclear : IsClear [] (Draft.states { states := 3 } + 1) (Draft.states { states := 3 } + 2)
      broad := isClear_broad
  rw [addBackward_blocks isAscending_broad hclear, length_broad, size_broad, Nat.zero_add]

/-- One state earlier, three of the first 25 nodes are driven out and made again. -/
theorem states_narrow :
    (addPaths 3 (Forest.cons 0xF0 narrow .nil).blocks (start 3 0)).1.states = 4 + 25 + 3 := by
  decide +kernel

/-- **On its own the broad forest takes more** than a state for each node. -/
theorem le_addBackward_broad :
    292386 ≤ (addBackward broad.blocks { states := 2 }).states ∧
      (addBackward broad.blocks { states := 2 }).extra = branchSize * 282337 := by
  have hroots : ∀ byte ∈ (Forest.cons 0xF0 narrow .nil).roots, byte ∉ wide.roots := by decide
  have hblocks : broad.blocks = (Forest.cons 0xF0 narrow .nil).blocks ++ wide.blocks := by
    rw [broad, blocks_cons, blocks_cons]
    simp [blocks]
  have hrun : addBackward broad.blocks { states := 2 } =
      (addPaths 3 broad.blocks (start 3 0)).1 := addBackward_eq _ _
  obtain ⟨hstates, hextra⟩ := states_append_le isAscending_wide hroots 3 0
  rw [states_narrow, size_wide, ← hblocks, ← hrun] at hstates
  rw [length_wide, ← hblocks, ← hrun, Nat.zero_add] at hextra
  exact ⟨hstates, hextra⟩

theorem bytes_addForward_broad :
    (addForward broad.blocks { states := 3 }).bytes ≤ 3000000 := by
  have hbytes := bytes_addForward_le isAscending_broad nofun { states := 3 }
  have hstart : Draft.bytes { states := 3 } = 96 := rfl
  rw [length_broad, size_broad, hstart, stateSize, arcSize] at hbytes
  generalize (addForward broad.blocks { states := 3 }).bytes = bytes at hbytes ⊢
  omega

/-! ## The set of the broad forest -/

/-- Whether a set is that of the broad forest. -/
structure IsBroad (s : CharSet) : Prop where
  blocks : Text.Utf8Block.ofSet s = broad.blocks
  far : ∃ r r' rest, s.ranges = r :: r' :: rest ∧ 0x80 ≤ r.2

section
variable {s : CharSet}

theorem IsBroad.addItem_eq (h : IsBroad s) (d : Draft) :
    addItem .forward d (.oneOf s) = addForward broad.blocks d ∧
      addItem .backward d (.oneOf s) = addBackward broad.blocks d := by
  obtain ⟨r, r', rest, hranges, hfar⟩ := h.far
  rw [← h.blocks]
  exact ⟨addSet_eq hranges hfar .forward d, addSet_eq hranges hfar .backward d⟩

/-- **The set of the broad forest has room in front of a character.** -/
theorem IsBroad.fits_char (h : IsBroad s) : fits [.oneOf s, .char 'x'] = true := by
  have hforward := fitsOneWay_forward_char (h.addItem_eq _).1
    (Nat.le_trans (Nat.add_le_add_right bytes_addForward_broad _) (by decide))
  have hbackward := fitsOneWay_backward_char ((h.addItem_eq _).2.trans addBackward_broad)
    (by decide)
  rw [fits, hforward, hbackward]
  rfl

/-- **The set of the broad forest does not have room on its own.** -/
theorem IsBroad.fits_eq_false (h : IsBroad s) : fits [.oneOf s] = false := by
  have hbackward : fitsOneWay .backward [.oneOf s] = false := by
    obtain ⟨hstates, hextra⟩ := le_addBackward_broad
    refine fitsOneWay_backward_eq_false (h.addItem_eq _).2 ?_
    rw [Draft.bytes, hextra]
    calc limit < stateSize * 292386 + branchSize * 282337 + 2 * stateSize := by decide
      _ ≤ _ := Nat.add_le_add_right (Nat.add_le_add_right (Nat.mul_le_mul_left _ hstates) _) _
  rw [fits, hbackward, Bool.and_false]

end

end Room

/-! ## Members -/

namespace Forest

open Text.Utf8Block

variable {count full last : Nat}

/-- Whether a block consists of so many further bytes, the last of which is even. -/
def IsTail : Nat → Block → Prop
  | 0, w => w = []
  | k + 1, w => ∃ b < 64, ∃ v, IsTail k v ∧ (k = 0 → b % 2 = 0) ∧ w = only (0x80 + b) :: v

theorem isTail_leaves (hpos : 0 < count) (hle : count ≤ 32) :
    ∀ w ∈ (leaves count).waysOn, IsTail 1 w := by
  intro w hw
  rw [waysOn_eq (leaves_ne_nil hpos)] at hw
  obtain ⟨j, hj, f, hf, v, hv, rfl⟩ := exists_of_mem_blocks_row hw
  rw [List.length_replicate] at hj
  rw [List.eq_of_mem_replicate hf] at hv
  exact ⟨2 * j, by omega, v, List.mem_singleton.mp hv, fun _ => by omega, rfl⟩

theorem isTail_row {k i : Nat} {fs : List Forest} (hle : i + fs.length ≤ 64)
    (h : ∀ f ∈ fs, ∀ v ∈ f.waysOn, IsTail (k + 1) v) :
    ∀ w ∈ (row (0x80 + i) 1 fs).blocks, IsTail (k + 2) w := by
  intro w hw
  obtain ⟨j, hj, f, hf, v, hv, rfl⟩ := exists_of_mem_blocks_row hw
  refine ⟨i + j, by omega, v, h f hf v hv, nofun, ?_⟩
  rw [Nat.one_mul, Nat.add_assoc]

theorem isTail_alike {k i : Nat} {f g : Forest} (hle : i + full < 64)
    (hf : ∀ v ∈ f.waysOn, IsTail (k + 1) v) (hg : ∀ v ∈ g.waysOn, IsTail (k + 1) v) :
    ∀ w ∈ (alike (0x80 + i) full f g).blocks, IsTail (k + 2) w := by
  refine isTail_row ?_ (forall_mem_alike hf hg full)
  rw [List.length_append, List.length_replicate]
  exact hle

theorem isTail_thirds (hfull : full < 63) (hpos : 0 < last) (hle : last ≤ 32) :
    ∀ w ∈ (thirds full last).waysOn, IsTail 2 w := by
  intro w hw
  rw [waysOn_eq thirds_ne_nil, thirds, blocks_cons, List.mem_append, List.mem_map] at hw
  rcases hw with ⟨v, hv, rfl⟩ | hw
  · exact ⟨0, by decide, v, isTail_leaves (by decide) (by decide) v hv, nofun, rfl⟩
  · exact isTail_alike (i := 1) (by omega) (isTail_leaves (by decide) (by decide))
      (isTail_leaves hpos hle) w hw

theorem isTail_seconds {last : Forest} (hfull : full < 64) (h : ∀ v ∈ last.waysOn, IsTail 2 v) :
    ∀ w ∈ (seconds full last).waysOn, IsTail 3 w := by
  rw [seconds, waysOn_eq alike_ne_nil]
  exact isTail_alike (i := 0) (by omega) (isTail_thirds (by decide) (by decide) (by decide)) h

theorem isTail_wide {q : Block} (h : q ∈ wide.blocks) :
    ∃ a, 1 ≤ a ∧ a ≤ 3 ∧ ∃ w, IsTail 3 w ∧ q = only (0xF0 + a) :: w := by
  obtain ⟨j, hj, f, hf, w, hw, rfl⟩ := exists_of_mem_blocks_row h
  have htail : ∀ f ∈ [seconds 63 (thirds 62 28), seconds 63 (thirds 62 28),
      seconds 26 (thirds 22 12)], ∀ w ∈ f.waysOn, IsTail 3 w := by
    simp only [List.forall_mem_cons, List.not_mem_nil, false_imp_iff, implies_true, and_true]
    refine ⟨?_, ?_, ?_⟩ <;>
      exact isTail_seconds (by decide) (isTail_thirds (by decide) (by decide) (by decide))
  refine ⟨j + 1, by omega, Nat.lt_succ_iff.mp (Nat.succ_lt_succ hj), w, htail f hf w hw, ?_⟩
  rw [Nat.one_mul, Nat.add_comm j, ← Nat.add_assoc]

theorem isTail_narrow {w : Block} (h : w ∈ narrow.waysOn) :
    IsTail 3 w ∧ ∃ v, w = only 0x90 :: v := by
  rw [narrow, waysOn_eq (row_ne_nil (List.cons_ne_nil _ _))] at h
  refine ⟨isTail_row (i := 16) (by decide) (List.forall_mem_singleton.mpr ?_) w h, ?_⟩
  · rw [waysOn_eq (row_ne_nil (List.cons_ne_nil _ _))]
    refine isTail_row (i := 0) (by decide) (List.forall_mem_cons.mpr ⟨?_, ?_⟩)
    · exact isTail_leaves (by decide) (by decide)
    · exact List.forall_mem_singleton.mpr (isTail_leaves (by decide) (by decide))
  · obtain ⟨j, hj, _, -, v, -, rfl⟩ := exists_of_mem_blocks_row h
    rw [Nat.lt_one_iff.mp hj]
    exact ⟨v, rfl⟩

/-- **The blocks of the broad forest are forms** of even code points. -/
theorem exists_form {q : Block} (h : q ∈ broad.blocks) :
    ∃ n, q = form n ∧ 0x10000 ≤ n ∧ n ≤ 0x10FFFF ∧ n % 2 = 0 := by
  have hbytes : ∃ a < 4, ∃ w, IsTail 3 w ∧ (a = 0 → ∃ v, w = only 0x90 :: v) ∧
      q = only (0xF0 + a) :: w := by
    rw [broad, blocks_cons, List.mem_append, List.mem_map] at h
    rcases h with ⟨w, hw, rfl⟩ | h
    · obtain ⟨htail, hlow⟩ := isTail_narrow hw
      exact ⟨0, by decide, w, htail, fun _ => hlow, rfl⟩
    · obtain ⟨a, hpos, hle, w, htail, rfl⟩ := isTail_wide h
      exact ⟨a, by omega, w, htail, fun hzero => by omega, rfl⟩
  obtain ⟨a, ha, _, ⟨b, hb, _, hthird, -, rfl⟩, hlow, rfl⟩ := hbytes
  obtain ⟨c, hc, _, hfourth, -, rfl⟩ := hthird
  obtain ⟨d, hd, _, rfl, heven, rfl⟩ := hfourth
  refine ⟨((a * 64 + b) * 64 + c) * 64 + d, (form_bits hb hc hd).symm, ?_⟩
  have hsixteen : a = 0 → b = 16 := by
    intro hzero
    obtain ⟨v, hv⟩ := hlow hzero
    have hbyte : 0x80 + b = 0x90 := (Prod.mk.inj (List.cons.inj hv).1).1
    omega
  have hlast := heven rfl
  omega

/-- The character of a form. -/
def member (q : Block) : Char := Char.ofNat (codeOf q)

/-- The characters of the broad forest, in the parts of the forest. -/
def members : List (List Char) := broad.parts.map (List.map member)

theorem flatten_members : members.flatten = broad.blocks.map member := by
  rw [members, ← List.map_flatten, flatten_parts]

theorem toNat_member {q : Block} (h : q ∈ broad.blocks) :
    form (member q).toNat = q ∧ 0x10000 ≤ (member q).toNat ∧ (member q).toNat ≤ 0x10FFFF ∧
      (member q).toNat % 2 = 0 := by
  obtain ⟨n, rfl, hbounds⟩ := exists_form h
  have hvalid : n.isValidChar := Or.inr ⟨by omega, by omega⟩
  have hcode : (member (form n)).toNat = n := by
    rw [member, codeOf_form, Char.ofNat, dif_pos hvalid]
    rfl
  rw [hcode]
  exact ⟨rfl, hbounds⟩

/-- The members ascend, and no two are next to each other. -/
theorem pairwise_members : members.flatten.Pairwise fun c d => c.toNat + 1 < d.toNat := by
  rw [flatten_members, List.pairwise_map]
  refine (pairwise_blocks isAscending_broad).imp_of_mem fun {q q'} hq hq' hprecedes => ?_
  obtain ⟨hform, -, -, heven⟩ := toNat_member hq
  obtain ⟨hform', -, -, heven'⟩ := toNat_member hq'
  rw [← hform, ← hform'] at hprecedes
  have hlt := lt_of_precedes hprecedes
  omega

theorem isBroad_members : Room.IsBroad ⟨singles members.flatten⟩ where
  blocks := by
    have hone : ∀ q ∈ broad.blocks, ofRange ((member q).toNat, (member q).toNat) = [q] := by
      intro q hq
      obtain ⟨hform, hlow, hhigh, -⟩ := toNat_member hq
      rw [ofRange_form hlow hhigh, hform]
    rw [ofSet, singles, flatten_members, List.map_map, List.flatMap_map]
    exact (List.flatMap_congr hone).trans (List.flatMap_singleton' _)
  far := by
    have hlength := length_broad
    have hfar : ∀ q ∈ broad.blocks, 0x80 ≤ (member q).toNat :=
      fun q hq => Nat.le_trans (by decide) (toNat_member hq).2.1
    rw [flatten_members]
    generalize broad.blocks = blocks at hlength hfar ⊢
    rcases blocks with _ | ⟨q, _ | ⟨q', rest⟩⟩
    · exact absurd hlength (by decide)
    · exact absurd hlength (by simp)
    · exact ⟨_, _, _, rfl, hfar q List.mem_cons_self⟩

end Forest

end PackQuery.Regex
