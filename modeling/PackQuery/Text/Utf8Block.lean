import PackQuery.CharSet

/-!
# Blocks of UTF-8 forms

The UTF-8 forms of a range of code points are cut into *blocks*, each of which is a sequence of
byte ranges, one for each byte of the forms. A form is in a block when each of its bytes is in
the byte range at its place. The blocks of a range are ascending.

What the first byte leaves incomplete at either end of a range has blocks of its own.
-/

namespace PackQuery.Text.Utf8Block

/-- A block: a byte range for each byte. -/
abbrev Block := List (Nat × Nat)

/-- How many code points there are to the bits of so many further bytes. -/
def span : Nat → Nat
  | 0 => 1
  | k + 1 => 64 * span k

/-- All values of so many further bytes. -/
def full (k : Nat) : Block := List.replicate k (0x80, 0xBF)

/-- The blocks of the code points between two ends, where `mark` stands in front of the bits of
the first byte, and `k` further bytes follow. -/
def between (mark : Nat) : Nat → Nat → Nat → List Block
  | 0, lo, hi => [[(mark + lo, mark + hi)]]
  | k + 1, lo, hi =>
    let n := span (k + 1)
    let a := lo / n
    let b := hi / n
    if a == b then (between 0x80 k (lo % n) (hi % n)).map ((mark + a, mark + a) :: ·)
    else
      let headCut := lo % n != 0
      let tailCut := hi % n != n - 1
      let first := if headCut then a + 1 else a
      let last := if tailCut then b else b + 1
      (if headCut then (between 0x80 k (lo % n) (n - 1)).map ((mark + a, mark + a) :: ·)
        else []) ++
        (if first < last then [(mark + first, mark + last - 1) :: full (k + 1)] else []) ++
        (if tailCut then (between 0x80 k 0 (hi % n)).map ((mark + b, mark + b) :: ·) else [])

/-- Code points whose UTF-8 forms are equally long. -/
structure Length where
  first : Nat
  last : Nat
  /-- What stands in front of the bits of the first byte. -/
  mark : Nat
  /-- How many bytes follow the first one. -/
  further : Nat

/-- The lengths of the forms. The surrogates have no forms. -/
def lengths : List Length :=
  [⟨0, 0x7F, 0, 0⟩, ⟨0x80, 0x7FF, 0xC0, 1⟩, ⟨0x800, 0xD7FF, 0xE0, 2⟩,
   ⟨0xE000, 0xFFFF, 0xE0, 2⟩, ⟨0x10000, 0x10FFFF, 0xF0, 3⟩]

/-- The blocks of a range. -/
def ofRange (r : Nat × Nat) : List Block :=
  lengths.flatMap fun l =>
    let lo := max l.first r.1
    let hi := min l.last r.2
    if lo ≤ hi then between l.mark l.further lo hi else []

/-- The blocks of a set, in ascending order. -/
def ofSet (s : CharSet) : List Block := s.ranges.flatMap ofRange

end PackQuery.Text.Utf8Block
