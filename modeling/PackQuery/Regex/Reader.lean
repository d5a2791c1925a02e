import PackQuery.Regex.Room
import PackQuery.Regex.Token

/-!
# Reading regular expressions

The reader turns tokens into a concatenation. Its main part are bracket classes.

**Classes.** A class lists characters, ranges, named sets, ASCII classes such as `[:digit:]`, and
further classes. `^` at the start negates it. At the start a dash stands for itself, and so does a
closing bracket; a dash before the closing bracket stands for itself too. `&&`, `--` and `~~`
intersect, subtract and take the symmetric difference of what stands before and after them, from
left to right. A range that descends, or one that ends in a set, is invalid, and so is a class
that is left open.

Open classes are kept on a stack, so the reader is one loop over the tokens.

**Depth.** Classes and operations may nest to any depth. The limit of 250 levels that the language
has by default is left out.
-/

namespace PackQuery.Regex

/-- The operations between the parts of a class. -/
inductive SetOperation where
  | intersection | difference | symmetricDifference
deriving DecidableEq, Repr

namespace SetOperation

/-- The operation of a mark that is written twice. -/
def ofMark? : Char → Option SetOperation
  | '&' => some intersection
  | '-' => some difference
  | '~' => some symmetricDifference
  | _ => none

/-- The set that an operation makes of two sets. -/
def apply : SetOperation → CharSet → CharSet → CharSet
  | intersection => CharSet.inter
  | difference => CharSet.diff
  | symmetricDifference => CharSet.symmDiff

end SetOperation

/-- How far the start of a class has been read. -/
inductive ClassStart where
  /-- Behind the opening bracket. -/
  | opened
  /-- Behind the caret. -/
  | negated
  /-- Behind dashes at the start. -/
  | dashed
  /-- Behind the start. -/
  | done
deriving DecidableEq, Repr

/-- A class that is being read. -/
structure OpenClass where
  start : ClassStart := .opened
  negated : Bool := false
  /-- What stands before the last operation, and the operation. -/
  before : Option (CharSet × SetOperation) := none
  /-- The ranges of the members since the last operation, the last one first. -/
  members : List (Nat × Nat) := []

namespace OpenClass

/-- Behind the start, with more members. -/
def add (k : OpenClass) (s : CharSet) : OpenClass :=
  { k with start := .done, members := s.ranges.reverse ++ k.members }

/-- The set so far, without regard to negation. -/
def sofar (k : OpenClass) : CharSet :=
  let listed := CharSet.ofRanges k.members.reverse
  match k.before with
  | some (s, op) => op.apply s listed
  | none => listed

/-- Behind an operation. -/
def operate (k : OpenClass) (op : SetOperation) : OpenClass :=
  { k with start := .done, before := some (k.sofar, op), members := [] }

/-- The set of a class that is closed. -/
def close (k : OpenClass) : CharSet := k.sofar.negateIf k.negated

/-- A token at the start of a class that has its meaning only there. -/
def atStart? (k : OpenClass) (t : Token) : Option OpenClass :=
  match k.start with
  | .done => none
  | .dashed =>
    if t.isRaw '-' then some { k.add (CharSet.single '-') with start := .dashed } else none
  | s =>
    if s == .opened && t.isRaw '^' then some { k with start := .negated, negated := true }
    else if t.isRaw '-' then some { k.add (CharSet.single '-') with start := .dashed }
    else if t.isRaw ']' then some (k.add (CharSet.single ']'))
    else none

end OpenClass

/-- An operation at the start of the tokens. -/
def operation? : List Token → Option SetOperation
  | .raw c :: .raw d :: _ => if c == d then SetOperation.ofMark? c else none
  | _ => none

/-- The spellings of the ASCII classes and their negations, with their sets. -/
def asciiSpellings : List (List Char × CharSet) :=
  asciiClasses.flatMap fun (name, s) =>
    [(("[:" ++ name ++ ":]").toList, s), (("[:^" ++ name ++ ":]").toList, s.negation)]

/-- An ASCII class at the start of the tokens, with its length. -/
def asciiClass? (ts : List Token) : Option (CharSet × Nat) :=
  (asciiSpellings.find? fun (text, _) =>
    text.length ≤ ts.length &&
      (text.zip ts).all fun (c, t) => t.isRaw c).map fun (text, s) => (s, text.length)

/-- The set of a single token. -/
def Token.asSet : Token → CharSet
  | .raw c => CharSet.single c
  | .literal c => CharSet.single c
  | .set s => s

/-- The set of a range, if both ends are characters and in order. -/
def range? (lo hi : Token) : Option CharSet := do
  let a ← lo.char?
  let b ← hi.char?
  if a ≤ b then return CharSet.range a b else none

/-- Characters that are never items on their own. -/
def isReserved (c : Char) : Bool :=
  ['\\', '.', '+', '*', '?', '(', ')', '|', '[', ']', '\x7b', '\x7d', '^', '$'].contains c

/-- The items of some tokens, within the classes that are open, the innermost one first. -/
def readItems : List OpenClass → List Token → Option (List Item)
  | [], [] => some []
  | [], .raw '.' :: .raw '*' :: ts => (readItems [] ts).map (.anyRun :: ·)
  | [], .raw c :: ts =>
    if c == '.' then (readItems [] ts).map (.any :: ·)
    else if c == '[' then readItems [{}] ts
    else if isReserved c then none
    else (readItems [] ts).map (.char c :: ·)
  | [], .literal c :: ts => (readItems [] ts).map (.char c :: ·)
  | [], .set s :: ts => (readItems [] ts).map (.oneOf s :: ·)
  | _ :: _, [] => none
  | k :: outer, t :: ts =>
    match k.atStart? t with
    | some k => readItems (k :: outer) ts
    | none =>
      if t.isRaw '[' then
        match asciiClass? (t :: ts) with
        | some (s, n) => readItems (k.add s :: outer) (ts.drop (n - 1))
        | none => readItems ({} :: { k with start := .done } :: outer) ts
      else if t.isRaw ']' then
        match outer with
        | [] => (readItems [] ts).map (.oneOf k.close :: ·)
        | k' :: outer => readItems (k'.add k.close :: outer) ts
      else
        match operation? (t :: ts) with
        | some op => readItems (k.operate op :: outer) (ts.drop 1)
        | none =>
          match _h : ts with
          | .raw '-' :: u :: rest =>
            if u.isRaw ']' || u.isRaw '-' then readItems (k.add t.asSet :: outer) ts
            else do readItems (k.add (← range? t u) :: outer) rest
          | _ => readItems (k.add t.asSet :: outer) ts
termination_by _ ts => ts.length
decreasing_by all_goals grind

/-- The concatenation that a regular expression denotes, if it is one and does not take too
much room. -/
def read? (s : List Char) : Option (List Item) := do
  let items ← readItems [] (← Token.read? s)
  if Room.fits items then return items else none

end PackQuery.Regex
