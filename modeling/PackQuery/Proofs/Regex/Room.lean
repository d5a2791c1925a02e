import Mathlib.Tactic.SplitIfs
import PackQuery.Regex.Room

/-!
# Room, item by item

An automaton takes its items one after the other (`addItems`), and the room of each depends on how
many states are in front of it. A set of several characters beyond ASCII takes the room of its
blocks (`addSet_eq`). The nodes that are made for it are kept in a table. The place of a node there
depends on the state it leads to, and by fours it is known which places are out of question
(`placeOf_keyOf_mod`).
-/

namespace PackQuery.Regex.Room

theorem Draft.bytes_addStates (d : Draft) (n : Nat) :
    (d.addStates n).bytes = d.bytes + stateSize * n := by
  simp only [Draft.bytes, Draft.addStates, Nat.mul_add]
  omega

/-! ## Tables -/

/-- The place of a key in a backward automaton. -/
def placeOf (key : List Nat) : Nat := (Recall.hash key).toNat % backwardPlaces

/-- The key of a node that leads to the state `next` by one byte. -/
abbrev keyOf (next byte : Nat) : List Nat := [next, byte, byte]

/-- The remainder of a hash when a number is mixed in. -/
theorem toNat_mix_mod (h : UInt64) (n : Nat) :
    ((h ^^^ n.toUInt64) * 1099511628211).toNat % 4 = ((h.toNat % 4) ^^^ (n % 4)) * 3 % 4 := by
  have hprime : (1099511628211 : UInt64).toNat = 1099511628211 := rfl
  have hxor : (h.toNat ^^^ n.toUInt64.toNat) % 4 = (h.toNat % 4) ^^^ (n % 4) := by
    have hn : n.toUInt64.toNat % 4 = n % 4 := by
      rw [UInt64.toNat_ofNat', Nat.mod_mod_of_dvd n (by decide)]
    rw [← hn]
    exact Nat.xor_mod_two_pow (n := 2)
  rw [UInt64.toNat_mul, UInt64.toNat_xor, hprime, ← hxor]
  omega

/-- **Places go by fours.** The remainder of a place depends on that of the state, and on whether
the byte is even. -/
theorem placeOf_keyOf_mod (next byte : Nat) :
    placeOf (keyOf next byte) % 4 = (next + 3 + 2 * (byte % 2)) % 4 := by
  have hstart : (14695981039346656037 : UInt64).toNat % 4 = 1 := rfl
  have hplace : placeOf (keyOf next byte) % 4 = (Recall.hash (keyOf next byte)).toNat % 4 :=
    Nat.mod_mod_of_dvd _ (by decide)
  have hall : ∀ m < 4, ∀ b < 4, ((((1 ^^^ m) * 3 % 4) ^^^ b) * 3 % 4 ^^^ b) * 3 % 4 =
      (m + 3 + 2 * (b % 2)) % 4 := by decide
  have hmod := hall (next % 4) (Nat.mod_lt _ (by decide)) (byte % 4) (Nat.mod_lt _ (by decide))
  rw [hplace, Recall.hash]
  simp only [List.foldl_cons, List.foldl_nil, toNat_mix_mod, hstart]
  omega

namespace Recall

theorem find?_insert (r : Recall) (key key' : List Nat) (state : Nat) :
    (r.insert key state).find? key' =
      if r.place key = r.place key' then if key = key' then some state else none
      else r.find? key' := by
  have hplace : (r.insert key state).place key' = r.place key' := rfl
  have hheld : (r.insert key state).held = r.held.insert (r.place key) (key, state) := rfl
  rw [find?, hplace, hheld, Std.TreeMap.getElem?_insert]
  by_cases h : r.place key = r.place key'
  · simp [h]
  · rw [if_neg h, if_neg (by simpa using h)]
    rfl

theorem find?_insert_self (r : Recall) (key : List Nat) (state : Nat) :
    (r.insert key state).find? key = some state := by
  simp [find?_insert]

/-- What is held behind an insertion is what was inserted, or it was held before. -/
theorem find?_insert_eq_some {r : Recall} {key key' : List Nat} {state s : Nat}
    (h : (r.insert key state).find? key' = some s) :
    key' = key ∧ s = state ∨ r.find? key' = some s := by
  rw [find?_insert] at h
  split_ifs at h with hplace hkey
  · exact Or.inl ⟨hkey.symm, (Option.some_inj.mp h).symm⟩
  · exact Or.inr h

theorem find?_insert_of_place {r : Recall} {key key' : List Nat} (state : Nat)
    (h : r.place key ≠ r.place key') : (r.insert key state).find? key' = r.find? key' := by
  rw [find?_insert, if_neg h]

theorem find?_empty (places : Nat) (key : List Nat) :
    Recall.find? { places := places } key = none := by
  simp [find?]

end Recall

theorem node_of_find?_eq_some {key : List Nat} {w : Work} {s : Nat} (h : w.2.find? key = some s)
    (add : Draft → Draft) : node key add w = (s, w) := by
  rw [node, h]

theorem node_of_find?_eq_none {key : List Nat} {w : Work} (h : w.2.find? key = none)
    (add : Draft → Draft) :
    node key add w = (w.1.states, add w.1, w.2.insert key w.1.states) := by
  rw [node, h]

/-! ## Items -/

/-- A set of several characters beyond ASCII is added by its blocks. -/
theorem addSet_eq {s : CharSet} {r r' : Nat × Nat} {rest : List (Nat × Nat)}
    (hranges : s.ranges = r :: r' :: rest) (hfar : 0x80 ≤ r.2) (way : Direction) (d : Draft) :
    addSet way s d =
      match way with
      | .forward => addForward (Text.Utf8Block.ofSet s) d
      | .backward => addBackward (Text.Utf8Block.ofSet s) d := by
  have hascii : ¬s.ranges.all (·.2 < 0x80) = true := by
    rw [hranges, List.all_cons, decide_eq_false (Nat.not_lt.mpr hfar)]
    exact Bool.false_ne_true
  unfold addSet
  rw [if_neg hascii, hranges]
  rfl

/-- Adds items until there is no room. -/
def addItems (way : Direction) (items : List Item) (d : Draft) : Draft :=
  items.foldl (fun d item => if limit < d.bytes then d else addItem way d item) d

theorem fitsOneWay_iff (way : Direction) (items : List Item) :
    fitsOneWay way items = true ↔
      ((addItems way (way.order items) { states := way.lead }).addStates way.tail).bytes ≤ limit :=
  decide_eq_true_iff

theorem addItems_cons {way : Direction} {d : Draft} (h : d.bytes ≤ limit) (item : Item)
    (items : List Item) :
    addItems way (item :: items) d = addItems way items (addItem way d item) := by
  rw [addItems, List.foldl_cons, if_neg (Nat.not_lt.mpr h)]
  rfl

section
variable {item : Item} {d : Draft}

/-- The room of an item in front of a character, read forward. -/
theorem fitsOneWay_forward_char (hadd : addItem .forward { states := 3 } item = d)
    (hroom : d.bytes + 4 * stateSize ≤ limit) : fitsOneWay .forward [item, .char 'x'] = true := by
  have hchar : addItem .forward d (.char 'x') = d.addStates 1 := rfl
  have hstart : addItems .forward [item, .char 'x'] { states := 3 } = d.addStates 1 := by
    rw [addItems_cons (by decide), hadd, addItems_cons (Nat.le_of_add_right_le hroom), hchar]
    rfl
  rw [fitsOneWay_iff, Direction.order, Direction.lead, Direction.tail, hstart,
    Draft.bytes_addStates, Draft.bytes_addStates]
  omega

/-- The room of an item in front of a character, read backward: the character comes first. -/
theorem fitsOneWay_backward_char (hadd : addItem .backward { states := 3 } item = d)
    (hroom : d.bytes + 2 * stateSize ≤ limit) : fitsOneWay .backward [item, .char 'x'] = true := by
  have hchar : addItem .backward { states := 2 } (.char 'x') = { states := 3 } := rfl
  have hstart : addItems .backward [.char 'x', item] { states := 2 } = d := by
    rw [addItems_cons (by decide), hchar, addItems_cons (by decide), hadd]
    rfl
  rw [fitsOneWay_iff, Direction.lead, Direction.tail]
  show ((addItems .backward [.char 'x', item] { states := 2 }).addStates 2).bytes ≤ limit
  rw [hstart, Draft.bytes_addStates]
  omega

/-- An item that has no room on its own, read backward. -/
theorem fitsOneWay_backward_eq_false (hadd : addItem .backward { states := 2 } item = d)
    (hroom : limit < d.bytes + 2 * stateSize) : fitsOneWay .backward [item] = false := by
  have hstart : addItems .backward [item] { states := 2 } = d := by
    rw [addItems_cons (by decide), hadd]
    rfl
  rw [Bool.eq_false_iff, ne_eq, fitsOneWay_iff, Direction.lead, Direction.tail, Direction.order,
    List.reverse_singleton, hstart, Draft.bytes_addStates]
  omega

end

end PackQuery.Regex.Room
