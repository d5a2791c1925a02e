import PackQuery.CharSet

/-!
# Anchored concatenations

The regular expressions of this library are concatenations of single characters, sets, `.` and
`.*`, and they match a text as a whole. `.` is any character but the line feed.

Matching runs from the last item to the first and keeps, for every suffix of the text, whether
the items so far match it. So the work is the product of the two lengths, whatever the number of
runs.
-/

namespace PackQuery.Regex

/-- A part of a concatenation. -/
inductive Item where
  /-- This character. -/
  | char (c : Char)
  /-- Any one character but the line feed. -/
  | any
  /-- Any number of characters but the line feed. -/
  | anyRun
  /-- One character of a set. -/
  | oneOf (set : CharSet)

namespace Item

/-- Whether `.` stands for a character. -/
def isAny (c : Char) : Bool := c != '\n'

/-- Whether an item for one character accepts a character. -/
def accepts : Item → Char → Bool
  | char c, d => d == c
  | any, d => isAny d
  | anyRun, d => isAny d
  | oneOf set, d => set.contains d

/-- Which suffixes of a text match an item followed by what `later` tells of the suffixes. Both
lists of answers start with the whole text and end with the empty one. -/
def sweep (item : Item) : List Char → List Bool → List Bool
  | c :: rest, now :: later =>
    let tails := item.sweep rest later
    match item with
    | anyRun => (now || (isAny c && tails.headD false)) :: tails
    | _ => (item.accepts c && later.headD false) :: tails
  | _, later =>
    match item with
    | anyRun => later
    | _ => [false]

end Item

/-- Which suffixes of a text match some items, from the whole text to the empty one. -/
def suffixMatches (text : List Char) : List Item → List Bool
  | [] => text.map (fun _ => false) ++ [true]
  | item :: rest => item.sweep text (suffixMatches text rest)

/-- Whether the items match a text as a whole. -/
def matchesText (items : List Item) (text : List Char) : Bool :=
  (suffixMatches text items).headD false

end PackQuery.Regex
