import PackQuery.Text.Numeral
import PackQuery.Yaml.Basic
import PackQuery.Yaml.Cursor

/-!
# Names and tags

In front of a node can stand a name and a tag. A name follows an ampersand, or an asterisk where
it stands for a node.

**Tags.** A tag in angle brackets is written in full. Otherwise it starts with a handle: an
exclamation mark, two of them, or a word between two. Octets that must not be written as
characters are written as numbers behind percent signs, and must then look like UTF-8: a first
octet says how many follow. Nothing of a tag counts behind an octet of zero.
-/

namespace PackQuery.Yaml

/-! ## Names -/

/-- Whether a name may end in front of some characters. -/
def isNameEnd (s : List Char) : Bool :=
  isBlankAhead s || s.head?.any ['?', ':', ',', ']', '\x7d', '%', '@', '\x60'].contains

/-- The name behind the mark at a place, and the place behind the name. -/
def name? (c : Cursor) : Option (String × Cursor) :=
  let name := (c.rest.drop 1).takeWhile isNameChar
  let d := c.past (name.length + 1)
  if !name.isEmpty && isNameEnd d.rest then some (String.ofList name, d) else none

/-! ## Octets -/

/-- Whether a character may occur in a tag; brackets and commas only in a full one. -/
def isTagChar (full : Bool) (c : Char) : Bool :=
  isNameChar c || [';', '/', '?', ':', '@', '&', '=', '+', '$', '.', '%', '!', '~', '*', '\'', '(',
    ')'].contains c || (full && [',', '[', ']'].contains c)

/-- The octet of two hexadecimal digits. -/
def octet? (a b : Char) : Option UInt8 := (Numeral.natural? 16 [a, b]).map Nat.toUInt8

/-- How many octets are due behind one, where `due` were before. -/
def dueBehind? (x : UInt8) : Nat → Option Nat
  | 0 =>
    if x < 0x80 then some 0
    else if x < 0xc0 then none
    else if x < 0xe0 then some 1
    else if x < 0xf0 then some 2
    else if x < 0xf8 then some 3
    else none
  | due + 1 => if 0x80 ≤ x && x < 0xc0 then some due else none

/-- The octets of some characters as far as they may occur in a tag, and what follows them. The
first `due` octets must be written as numbers. -/
def octets? (full : Bool) : Nat → List Char → Option (Tag × List Char)
  | due, '%' :: a :: b :: s => do
    let x ← octet? a b
    let (l, left) ← octets? full (← dueBehind? x due) s
    return (x :: l, left)
  | 0, c :: s =>
    if c == '%' then none
    else if isTagChar full c then
      (octets? full 0 s).map fun (l, left) => (c.toNat.toUInt8 :: l, left)
    else some ([], c :: s)
  | 0, [] => some ([], [])
  | _ + 1, _ => none

/-- Octets of which at least one is written, up to one that is zero. -/
def someOctets? (full : Bool) (s : List Char) : Option (Tag × List Char) := do
  let (l, left) ← octets? full 0 s
  if l.isEmpty then none else return (l.takeWhile (· != 0), left)

/-! ## Tags -/

/-- The handle that some characters start with, and what follows it. A word without a second
exclamation mark is no handle. -/
def handle (s : List Char) : List Char × List Char :=
  let word := (s.drop 1).takeWhile isNameChar
  match s.drop (word.length + 1) with
  | '!' :: left => ('!' :: word ++ ['!'], left)
  | _ => (['!'], s.drop 1)

/-- The tag that some characters start with, and what follows it. -/
def tagFrom? : List Char → Option (Token × List Char)
  | '!' :: '<' :: s => do
    let (l, left) ← someOctets? true s
    if left.head? == some '>' then return (.tag "" l, left.drop 1) else none
  | s =>
    match handle s with
    | (['!'], left) => do
      let (l, left) ← octets? false 0 left
      let l := l.takeWhile (· != 0)
      return (if l.isEmpty then .tag "" Tag.bare else .tag "!" l, left)
    | (name, left) => do
      let (l, left) ← someOctets? false left
      return (.tag (String.ofList name) l, left)

/-- The tag at a place and the place behind it. -/
def tag? (flow : Bool) (c : Cursor) : Option (Token × Cursor) := do
  let (tag, left) ← tagFrom? c.rest
  if isBlankAhead left || (flow && left.head? == some ',') then return (tag, c.upTo left) else none

end PackQuery.Yaml
