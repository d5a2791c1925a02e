import Std.Data.TreeMap
import PackQuery.Regex.Basic
import PackQuery.Text.Utf8Block

/-!
# The room of an expression

An expression is matched byte by byte, on the UTF-8 forms of a text. That takes two automata: one
reads the text forward and one backward. If either takes more than `limit` bytes, the expression
is not accepted.

**States.** A state takes `stateSize` bytes. A state with several ways on takes more: `arcSize` for
a way that is labelled with a byte range, `branchSize` for one that is not.

**Sets.** A set of ASCII characters is one state with an arc for each of its ranges. For any other
set the forward automaton has a trie of the blocks, in which equal nodes are one state. The
backward automaton has a branch for each block, and blocks that begin alike share the states of
that beginning.

**Recall.** To find equal nodes, the nodes of a set are kept in a table with a fixed number of
places. A node that comes to a taken place drives out the one before it, so some nodes are made
twice.
-/

namespace PackQuery.Regex.Room

open Text.Utf8Block (Block)

/-- The bytes of a state. -/
def stateSize : Nat := 32

/-- The bytes of one of several ways on that are labelled with byte ranges. -/
def arcSize : Nat := 8

/-- The bytes of one of several ways on that are not labelled. -/
def branchSize : Nat := 4

/-- The places for the nodes of a set in the backward automaton. -/
def backwardPlaces : Nat := 1000

/-- The places for the nodes of a set in the forward automaton. -/
def forwardPlaces : Nat := 10000

/-- The most bytes that an automaton may take. -/
def limit : Nat := 10 * 1024 * 1024

/-! ## Recalled nodes -/

/-- A table of the nodes made, with a fixed number of places. A node has a key, which describes
it, and the number of its state. -/
structure Recall where
  places : Nat
  held : Std.TreeMap Nat (List Nat × Nat) := {}

namespace Recall

/-- A hash of some numbers, in words of 64 bits: each number in turn is mixed in by an exclusive or,
and the result is multiplied by a prime. -/
def hash (key : List Nat) : UInt64 :=
  key.foldl (fun h n => (h ^^^ n.toUInt64) * 1099511628211) 14695981039346656037

/-- The place of a key. -/
def place (r : Recall) (key : List Nat) : Nat := (hash key).toNat % r.places

/-- The state of the node with a key, if that node is still held. -/
def find? (r : Recall) (key : List Nat) : Option Nat :=
  match r.held[r.place key]? with
  | some (k, state) => if k == key then some state else none
  | none => none

/-- Puts a node at its place. -/
def insert (r : Recall) (key : List Nat) (state : Nat) : Recall :=
  { r with held := r.held.insert (r.place key) (key, state) }

end Recall

/-! ## Drafts -/

/-- What is known of an automaton in the making. -/
structure Draft where
  /-- How many states it has so far. The next state has this number. -/
  states : Nat
  /-- The bytes that its states take beyond `stateSize`. -/
  extra : Nat := 0

namespace Draft

/-- The bytes taken so far. -/
def bytes (d : Draft) : Nat := stateSize * d.states + d.extra

/-- Adds some states with no more than one way on. -/
def addStates (d : Draft) (n : Nat) : Draft := { d with states := d.states + n }

/-- Adds a state with some arcs. -/
def addArcs (d : Draft) (n : Nat) : Draft := ⟨d.states + 1, d.extra + arcSize * n⟩

/-- Adds a branch to a state. -/
def addBranch (d : Draft) : Draft := { d with extra := d.extra + branchSize }

end Draft

/-- A draft, and the nodes of the set that is being added to it. -/
abbrev Work := Draft × Recall

/-- The state of a node: the one that is recalled, or a new one, which `add` puts into the
draft. -/
def node (key : List Nat) (add : Draft → Draft) : Work → Nat × Work
  | (d, r) =>
    match r.find? key with
    | some state => (state, d, r)
    | none => (d.states, add d, r.insert key d.states)

/-! ## Sets -/

/-- The start of the states that lead over the bytes of a block, the last one first, to the state
`next`. -/
def path (next : Nat) : Block → Work → Work
  | [], w => w
  | (lo, hi) :: rest, w =>
    let (state, w) := node [next, lo, hi] (·.addStates 1) w
    path state rest w

/-- Adds the blocks of a set to an automaton that reads backward: the state that all blocks
branch from, the state where they end, and their paths. -/
def addBackward (bs : List Block) (d : Draft) : Draft :=
  let stop := d.states + 1
  let work := bs.foldl (fun w b => ((path stop b w).map Draft.addBranch id))
    (d.addStates 2, { places := backwardPlaces })
  work.1

/-- The node of some blocks, in a trie of the depth `depth` whose leaves are the state `next`. -/
def trie (next : Nat) : Nat → List Block → Work → Nat × Work
  | 0, _, w => (next, w)
  | depth + 1, bs, w =>
    if bs.all List.isEmpty then (next, w)
    else
      let groups := bs.splitBy fun a b => a.head? == b.head?
      let (key, w) := groups.foldl (fun (key, w) group =>
        let (lo, hi) := (group.head?.bind List.head?).getD (0, 0)
        let (state, w) := trie next depth (group.map List.tail) w
        (key ++ [lo, hi, state], w)) ([], w)
      node key (·.addArcs groups.length) w

/-- Adds the blocks of a set to an automaton that reads forward: the state where they end, and
their trie. A form has four bytes at most. -/
def addForward (bs : List Block) (d : Draft) : Draft :=
  let stop := d.states
  let (_, work) := trie stop 5 bs (d.addStates 1, { places := forwardPlaces })
  work.1

/-! ## Expressions -/

/-- The direction in which an automaton reads. -/
inductive Direction where
  | forward
  | backward

/-- Adds a character, which is a state for each byte of its form. -/
def addCode (code : Nat) (d : Draft) : Draft :=
  d.addStates (Char.ofNat code).utf8Size

/-- Adds a set. A set of one character is no more than that character. -/
def addSet (way : Direction) (s : CharSet) (d : Draft) : Draft :=
  match s.ranges with
  | [] => (d.addStates 1).addArcs 0
  | (lo, hi) :: rest =>
    if rest.isEmpty && lo == hi then addCode lo d
    else if s.ranges.all (·.2 < 0x80) then (d.addStates 1).addArcs s.ranges.length
    else
      match way with
      | .forward => addForward (Text.Utf8Block.ofSet s) d
      | .backward => addBackward (Text.Utf8Block.ofSet s) d

/-- The characters that `.` stands for. -/
def anySet : CharSet := (CharSet.single '\n').negation

/-- Adds an item. A run has a state that branches into the repeated set and behind it. -/
def addItem (way : Direction) (d : Draft) : Item → Draft
  | .char c => addCode c.toNat d
  | .any => addSet way anySet d
  | .anyRun => addSet way anySet (d.addStates 1).addBranch.addBranch
  | .oneOf s => addSet way s d

/-- The items in the order in which an automaton meets them. -/
def Direction.order : Direction → List Item → List Item
  | forward, items => items
  | backward, items => items.reverse

/-- How many states stand in front of the items: one for the start, and one for an end of the text.
A forward automaton also has one for the start of what is matched. -/
def Direction.lead : Direction → Nat
  | forward => 3
  | backward => 2

/-- How many states stand behind the items: one for the other end of the text, and one for the
match. A forward automaton also has one for the end of what is matched. -/
def Direction.tail : Direction → Nat
  | forward => 3
  | backward => 2

/-- Whether the automaton of some items in a direction takes no more than `limit`. -/
def fitsOneWay (way : Direction) (items : List Item) : Bool :=
  let done := (way.order items).foldl
    (fun d item => if limit < d.bytes then d else addItem way d item) { states := way.lead }
  (done.addStates way.tail).bytes ≤ limit

/-- Whether neither automaton of some items takes more than `limit`. -/
def fits (items : List Item) : Bool := fitsOneWay .forward items && fitsOneWay .backward items

end PackQuery.Regex.Room
