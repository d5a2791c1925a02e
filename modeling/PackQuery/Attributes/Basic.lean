import PackQuery.Dict
import PackQuery.Text.Cut
import PackQuery.Text.Numeral
import PackQuery.Wildcard.Basic

/-!
# Attribute sets

An attribute set is what the library knows of a component, an interface, a device or a pack:
values by attribute name, and the tag of the element that they were read from. Requests are
attribute sets too.

Storing reports whether it changed something. `add` reports a change also when an empty value of a
missing attribute is not stored, and `addAll` reports one whenever it fills an empty set.
-/

namespace PackQuery

/-- Attribute values by name, with an optional tag. -/
structure AttributeSet where
  tag : Option String := none
  attributes : Dict String := .empty
deriving DecidableEq, Inhabited

namespace AttributeSet

/-- The set without attributes and tag. -/
def empty : AttributeSet := {}

/-- The set without attributes under a tag. -/
def tagged (tag : String) : AttributeSet := { tag := some tag }

/-- The untagged set of some pairs, the last pair of a name winning. -/
def ofPairs (pairs : List (String × String)) : AttributeSet :=
  { attributes := .ofList pairs }

/-! ## Reading -/

/-- The value of an attribute. -/
def get? (s : AttributeSet) (name : String) : Option String := s.attributes.get? name

/-- The value of an attribute, empty if it is missing. -/
def get (s : AttributeSet) (name : String) : String := (s.get? name).getD ""

/-- Whether an attribute is present. -/
def contains (s : AttributeSet) (name : String) : Bool := s.attributes.contains name

/-- The names and values, in the order of the names. -/
def pairs (s : AttributeSet) : List (String × String) := s.attributes.entries

/-- The number of attributes. -/
def size (s : AttributeSet) : Nat := s.attributes.size

/-- Whether there is no attribute. -/
def isEmpty (s : AttributeSet) : Bool := s.attributes.isEmpty

/-- The first of some attributes that is not empty; missing ones count as empty. -/
def firstOf (s : AttributeSet) : List String → String
  | [] => ""
  | name :: rest => if s.get name = "" then s.firstOf rest else s.get name

/-- Whether some value agrees with a pattern. -/
def hasValue (s : AttributeSet) (pattern : String) : Bool :=
  s.pairs.any fun p => Wildcard.agree pattern p.2

/-- A truth value: `1` and `true` are true, all other values but the empty one false. -/
def getBool (s : AttributeSet) (name : String) (default : Bool) : Bool :=
  if s.get name = "" then default else s.get name = "1" || s.get name = "true"

/-- A signed 32-bit number. -/
def getSigned32 (s : AttributeSet) (name : String) (default : Int) : Int :=
  (Numeral.signed32? (s.get name)).getD default

/-- An unsigned 32-bit number. -/
def getUnsigned32 (s : AttributeSet) (name : String) (default : Nat) : Nat :=
  (Numeral.unsigned32? (s.get name)).getD default

/-- An unsigned 64-bit number. -/
def getUnsigned64 (s : AttributeSet) (name : String) (default : Nat) : Nat :=
  (Numeral.unsigned64? (s.get name)).getD default

/-! ## Storing -/

/-- Store a value, and report whether that is a change. An empty name is never stored. An empty
value is stored only with `keepEmpty`; otherwise it takes the attribute away. -/
def add (s : AttributeSet) (name value : String) (keepEmpty : Bool) : AttributeSet × Bool :=
  if name = "" then (s, false)
  else if s.get? name = some value then (s, false)
  else if keepEmpty || value ≠ "" then
    ({ s with attributes := s.attributes.insert name value }, true)
  else ({ s with attributes := s.attributes.erase name }, true)

/-- Store a value even if it is empty. -/
def set (s : AttributeSet) (name value : String) : AttributeSet × Bool := s.add name value true

/-- The set with a value; an empty value takes the attribute away. -/
def withAttribute (s : AttributeSet) (name value : String) : AttributeSet :=
  (s.add name value false).1

/-- Take an attribute away, and report whether it was there. -/
def remove (s : AttributeSet) (name : String) : AttributeSet × Bool :=
  ({ s with attributes := s.attributes.erase name }, s.contains name)

/-- The set without any attribute. -/
def clear (s : AttributeSet) : AttributeSet := { s with attributes := .empty }

/-- One step of `addAll`: the pair is added unless its name is kept. -/
def addPair (replace : Bool) (acc : AttributeSet × Bool) (p : String × String) :
    AttributeSet × Bool :=
  if replace || !acc.1.contains p.1 then
    let next := acc.1.add p.1 p.2 false
    (next.1, acc.2 || next.2)
  else acc

/-- Store the attributes of another set, those that are there already only with `replace`. An
empty set takes over all of them as they are. -/
def addAll (s other : AttributeSet) (replace : Bool) : AttributeSet × Bool :=
  if other.isEmpty then (s, false)
  else if s.isEmpty then ({ s with attributes := other.attributes }, true)
  else other.pairs.foldl (addPair replace) (s, false)

/-- Take over exactly the attributes of another set. -/
def setAll (s other : AttributeSet) : AttributeSet × Bool :=
  if s.attributes = other.attributes then (s, false)
  else ({ s with attributes := other.attributes }, true)

/-- Take away the attributes whose names agree with a pattern. -/
def eraseMatching (s : AttributeSet) (pattern : String) : AttributeSet × Bool :=
  let kept := s.attributes.filter fun name _ => !Wildcard.agree pattern name
  ({ s with attributes := kept }, kept.size ≠ s.size)

/-! ## Reading what is stored -/

theorem mem_pairs_iff {s : AttributeSet} {name value : String} :
    (name, value) ∈ s.pairs ↔ s.get? name = some value :=
  Dict.mem_entries_iff

theorem get?_set (s : AttributeSet) {name : String} (h : name ≠ "") (value name' : String) :
    (s.set name value).1.get? name' = if name' = name then some value else s.get? name' := by
  unfold set add
  rw [if_neg h]
  split
  · rename_i hsame
    split
    · rename_i he
      rw [he, hsame]
    · rfl
  · exact Dict.get?_insert s.attributes name name' value

theorem get?_remove (s : AttributeSet) (name name' : String) :
    (s.remove name).1.get? name' = if name' = name then none else s.get? name' :=
  Dict.get?_erase s.attributes name name'

/-! ## Showing -/

/-- The pairs `name=value`, separated by blanks. -/
def pairsText (s : AttributeSet) (quote : Bool) : String :=
  Text.join " " (s.pairs.map fun p =>
    if quote then p.1 ++ "=\"" ++ p.2 ++ "\"" else p.1 ++ "=" ++ p.2)

/-- The set as an element: its tag and quoted pairs in angle brackets, without a tag the quoted
pairs alone. -/
def elementText (s : AttributeSet) : String :=
  match s.tag with
  | some tag =>
    if s.isEmpty then "<" ++ tag ++ ">" else "<" ++ tag ++ " " ++ s.pairsText true ++ ">"
  | none => s.pairsText true

end AttributeSet

end PackQuery
