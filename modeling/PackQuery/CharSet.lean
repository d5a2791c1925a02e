import PackQuery.Text.Numeral

/-!
# Sets of characters

A set of characters is the list of the ranges of code points that it consists of, in ascending
order and with a gap between any two. So each set has one form, and its size can be told from it.

**Surrogates.** The surrogates are code points that no character has. They may lie within a range,
and it makes no difference whether they do. But two ranges with nothing but surrogates between them
are two ranges, and `CharSet.negation` depends on that.

**Tables.** Sets that are given by a standard are written as text: code points in hexadecimal,
with a dash between the ends of a range.
-/

namespace PackQuery

/-- A set of characters: its ranges of code points, ends included. -/
structure CharSet where
  ranges : List (Nat × Nat)
deriving DecidableEq, Repr, Inhabited

namespace CharSet

/-- Whether a character is in a set. -/
def contains (s : CharSet) (c : Char) : Bool :=
  s.ranges.any fun r => r.1 ≤ c.toNat && c.toNat ≤ r.2

/-! ## Making sets -/

/-- A range and the ranges behind it, in ascending order of their starts, with those that touch
made one. -/
def joinFrom (lo hi : Nat) : List (Nat × Nat) → List (Nat × Nat)
  | [] => [(lo, hi)]
  | r :: rest =>
    if r.1 ≤ hi + 1 then joinFrom lo (max hi r.2) rest else (lo, hi) :: joinFrom r.1 r.2 rest

/-- The set of some ranges. -/
def ofRanges (ranges : List (Nat × Nat)) : CharSet :=
  match ranges.mergeSort fun r s => r.1 ≤ s.1 with
  | [] => ⟨[]⟩
  | r :: rest => ⟨joinFrom r.1 r.2 rest⟩

/-- The empty set. -/
def empty : CharSet := ⟨[]⟩

/-- The set of one character. -/
def single (c : Char) : CharSet := ⟨[(c.toNat, c.toNat)]⟩

/-- The characters from one to another, both included. -/
def range (lo hi : Char) : CharSet := ⟨[(lo.toNat, hi.toNat)]⟩

/-- The ranges that a text lists. `first` is the start of the range that is being read, if it is
known, and `n` the number that is being read. -/
def readRanges (first : Option Nat) (n : Nat) : List Char → List (Nat × Nat)
  | [] => [(first.getD n, n)]
  | ' ' :: s => (first.getD n, n) :: readRanges none 0 s
  | '-' :: s => readRanges (some n) 0 s
  | c :: s => readRanges first (n * 16 + (Numeral.digit? 16 c).getD 0) s

/-- The set whose ranges some lines of text list. -/
def ofText (lines : List String) : CharSet :=
  ofRanges (lines.flatMap fun line => readRanges none 0 line.toList)

/-! ## Operations -/

/-- The last code point. -/
def lastCode : Nat := 0x10FFFF

/-- The first of the code points that are no characters. -/
def firstSurrogate : Nat := 0xD800

/-- The last of the code points that are no characters. -/
def lastSurrogate : Nat := 0xDFFF

/-- Whether a code point is that of no character. -/
def isSurrogate (n : Nat) : Bool := firstSurrogate ≤ n && n ≤ lastSurrogate

/-- The gaps between some ranges from a code point on. -/
def gapsFrom (n : Nat) : List (Nat × Nat) → List (Nat × Nat)
  | [] => if n ≤ lastCode then [(n, lastCode)] else []
  | r :: rest =>
    if n < r.1 then (n, r.1 - 1) :: gapsFrom (r.2 + 1) rest else gapsFrom (r.2 + 1) rest

/-- All code points outside a set. -/
def compl (a : CharSet) : CharSet := ⟨gapsFrom 0 a.ranges⟩

/-- The characters in either set. -/
def union (a b : CharSet) : CharSet := ofRanges (a.ranges ++ b.ranges)

/-- The characters in any of some sets. -/
def unions (sets : List CharSet) : CharSet := ofRanges (sets.flatMap ranges)

/-- The characters in both sets. -/
def inter (a b : CharSet) : CharSet := (a.compl.union b.compl).compl

/-- A range without the surrogates at its ends, if anything is left of it. -/
def trim? (r : Nat × Nat) : Option (Nat × Nat) :=
  let lo := if isSurrogate r.1 then lastSurrogate + 1 else r.1
  let hi := if isSurrogate r.2 then firstSurrogate - 1 else r.2
  if lo ≤ hi then some (lo, hi) else none

/-- The characters in the first set only. -/
def diff (a b : CharSet) : CharSet := ⟨(a.inter b.compl).ranges.filterMap trim?⟩

/-- The bounds of some ranges, the last one first, in front of others: the code points where a
range starts, and those behind the end of one. -/
def boundsOnto (others : List Nat) : List (Nat × Nat) → List Nat
  | [] => others
  | r :: rest => boundsOnto ((r.2 + 1) :: r.1 :: others) rest

/-- What is in exactly one of two descending lists, in ascending order in front of others. -/
def oddOnto (others : List Nat) : List Nat → List Nat → List Nat
  | [], b => b.reverseAux others
  | a, [] => a.reverseAux others
  | m :: a, n :: b =>
    if m < n then oddOnto (n :: others) (m :: a) b
    else if n < m then oddOnto (m :: others) a (n :: b)
    else oddOnto others a b
termination_by a b => a.length + b.length

/-- The ranges from every other bound up to the next, in ascending order behind those before. -/
def betweenBounds (before : List (Nat × Nat)) : List Nat → List (Nat × Nat)
  | m :: n :: rest => betweenBounds ((trim? (m, n - 1)).toList ++ before) rest
  | _ => before.reverse

/-- The characters in exactly one of the sets. A bound of both sets is not one of theirs. -/
def symmDiff (a b : CharSet) : CharSet :=
  ⟨betweenBounds [] (oddOnto [] (boundsOnto [] a.ranges) (boundsOnto [] b.ranges))⟩

/-! ## Negation -/

/-- The code point of the next character. -/
def after (n : Nat) : Nat := if n + 1 == firstSurrogate then lastSurrogate + 1 else n + 1

/-- The code point of the character before. -/
def before (n : Nat) : Nat := if n == lastSurrogate + 1 then firstSurrogate - 1 else n - 1

/-- The ranges behind and between some ranges. A gap reaches from the character behind a range to
the one before the next range, whichever of the two comes first. -/
def gaps : List (Nat × Nat) → List (Nat × Nat)
  | [] => []
  | [r] => if r.2 < lastCode then [(after r.2, lastCode)] else []
  | r :: s :: rest =>
    (min (after r.2) (before s.1), max (after r.2) (before s.1)) :: gaps (s :: rest)

/-- The negation of a set: the characters outside it. If nothing but surrogates lies between two
ranges, the characters on both sides of the surrogates count as outside too. -/
def negation (a : CharSet) : CharSet :=
  match a.ranges with
  | [] => ⟨[(0, lastCode)]⟩
  | r :: _ => ofRanges ((if 0 < r.1 then [(0, before r.1)] else []) ++ gaps a.ranges)

/-- The set, or its negation. -/
def negateIf (negated : Bool) (a : CharSet) : CharSet := if negated then a.negation else a

/-- All characters. -/
def all : CharSet := compl empty

end CharSet

end PackQuery
