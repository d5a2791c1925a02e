import PackQuery.Text.Cut

/-!
# Natural order

Texts are compared by their UTF-8 bytes, except that two runs of ASCII digits that meet are
compared as the numbers they denote: `2.9` comes before `2.10`, and `2.01` equals `2.1`. Where
one text is the beginning of the other, the longer one is greater. Without case sensitivity ASCII
letters count as their upper-case forms.

Digit runs may be of any length: without leading zeros the longer run is the greater number, and
runs of one length compare digit by digit.
-/

namespace PackQuery.NaturalOrder

/-- The UTF-8 form of a text. -/
def bytes (s : List Char) : List UInt8 :=
  s.flatMap String.utf8EncodeChar

/-- Whether a byte is an ASCII digit. -/
def isDigit (b : UInt8) : Bool := 48 ≤ b && b ≤ 57

/-- The upper-case form of an ASCII letter, any other byte itself. -/
def upper (b : UInt8) : UInt8 := if 97 ≤ b && b ≤ 122 then b - 32 else b

/-- A byte as it counts in a comparison. -/
def folded (sensitive : Bool) (b : UInt8) : UInt8 := if sensitive then b else upper b

/-- The order of the numbers that two digit runs denote. -/
def compareRuns (a b : List UInt8) : Ordering :=
  let a := a.dropWhile (· == 48)
  let b := b.dropWhile (· == 48)
  (compare a.length b.length).then (compare a b)

theorem length_dropWhile_le {α : Type} (p : α → Bool) (l : List α) :
    (l.dropWhile p).length ≤ l.length :=
  (List.dropWhile_sublist p).length_le

/-- The natural order of two byte sequences. -/
def compareBytes (sensitive : Bool) : List UInt8 → List UInt8 → Ordering
  | [], [] => .eq
  | [], _ :: _ => .lt
  | _ :: _, [] => .gt
  | a :: as, b :: bs =>
    if isDigit a && isDigit b then
      match compareRuns (a :: as.takeWhile isDigit) (b :: bs.takeWhile isDigit) with
      | .eq => compareBytes sensitive (as.dropWhile isDigit) (bs.dropWhile isDigit)
      | o => o
    else
      match compare (folded sensitive a) (folded sensitive b) with
      | .eq => compareBytes sensitive as bs
      | o => o
termination_by as => as.length
decreasing_by
  · exact Nat.lt_succ_of_le (length_dropWhile_le _ _)
  · exact Nat.lt_succ_self _

/-- The natural order of two texts given as characters. -/
def compareChars (sensitive : Bool) (a b : List Char) : Ordering :=
  compareBytes sensitive (bytes a) (bytes b)

/-- The natural order of two texts. -/
def compare (sensitive : Bool) (a b : String) : Ordering :=
  compareChars sensitive a.toList b.toList

/-- The natural order, texts that it does not tell apart being ordered by their number of bytes:
`2.1` comes before `2.01`. -/
def compareThenLength (sensitive : Bool) (a b : String) : Ordering :=
  (compare sensitive a b).then (Ord.compare a.utf8ByteSize b.utf8ByteSize)

end PackQuery.NaturalOrder
