/-!
# Characters and places in a YAML text

Besides the line feed, YAML ends lines at carriage returns, next-line characters and the two
Unicode separators. Only the separators differ from a line feed in what they mean, so a text is
read after `normalize` has turned the others into line feeds.

Not every character may stand in a document (`isAllowed`), and not every allowed one is written
as it is (`isPrintable`): tabs, for instance, are read but never written.

A cursor is a place in a text: what follows, the line, and how far the place is behind the start
of the line. Columns count characters, and a block collection is indented by them; the width
counts UTF-8 bytes, and the length of a key is limited by it.

**Skipping.** Between tokens stand spaces, comments and line ends, and tabs where they cannot be
mistaken for indentation: in flow collections, and where no key may start. A line may start with
a byte order mark, which takes up a column.
-/

namespace PackQuery.Yaml

/-! ## Characters -/

/-- Spaces and tabs. -/
def isBlank (c : Char) : Bool := c == ' ' || c == '\t'

/-- The characters that end a line. -/
def isBreak (c : Char) : Bool :=
  c == '\n' || c == '\r' || c == '\x85' || c == '\u2028' || c == '\u2029'

/-- Whether a blank, a line end or the end stands at the start of some characters. -/
def isBlankAhead : List Char → Bool
  | [] => true
  | c :: _ => isBlank c || isBreak c

/-- Whether a character may stand in a document. -/
def isAllowed (c : Char) : Bool :=
  c == '\t' || c == '\n' || c == '\r' || c == '\x85' || (' ' ≤ c && c ≤ '~') ||
    ('\u00a0' ≤ c && c ≤ '\ufffd') || 0x10000 ≤ c.toNat

/-- Whether a character is written as it is. -/
def isPrintable (c : Char) : Bool :=
  c == '\n' || (' ' ≤ c && c ≤ '~') ||
    ('\u00a0' ≤ c && c ≤ '\ufffd' && c != '\ufeff') || 0x10000 ≤ c.toNat

/-- The characters with every line end but the separators turned into a line feed. -/
def normalize : List Char → List Char
  | '\r' :: '\n' :: s => '\n' :: normalize s
  | '\r' :: s => '\n' :: normalize s
  | '\x85' :: s => '\n' :: normalize s
  | c :: s => c :: normalize s
  | [] => []

/-- The characters that go into the names of anchors, tag handles and directives. -/
def isNameChar (c : Char) : Bool := c.isAlphanum || c == '-' || c == '_'

/-! ## Places -/

/-- A place in a text. -/
structure Cursor where
  /-- The characters from the place on. -/
  rest : List Char
  line : Nat := 0
  /-- The characters between the start of the line and the place. -/
  column : Nat := 0
  /-- The bytes of these characters. -/
  width : Nat := 0
deriving DecidableEq, Repr

namespace Cursor

/-- In the next line, in front of some characters. -/
def nextLine (c : Cursor) (s : List Char) : Cursor := { rest := s, line := c.line + 1 }

/-- Behind a character of the line, in front of some others. -/
def nextColumn (c : Cursor) (x : Char) (s : List Char) : Cursor :=
  { c with rest := s, column := c.column + 1, width := c.width + x.utf8Size }

/-- Behind some characters of the line. -/
def past (c : Cursor) : Nat → Cursor
  | 0 => c
  | count + 1 =>
    match c.rest with
    | [] => c
    | x :: s => (c.nextColumn x s).past count

/-- Behind the characters of the line in front of those that are left. -/
def upTo (c : Cursor) (left : List Char) : Cursor := c.past (c.rest.length - left.length)

/-! ## Skipping -/

/-- From a place before some characters to the next one that means something, and whether a key may
start there. A line end always allows it outside a flow collection. -/
def skipFrom (flow comment fresh : Bool) : List Char → Cursor → Cursor × Bool
  | [], c => ({ c with rest := [] }, fresh)
  | x :: s, c =>
    if isBreak x then skipFrom flow false (fresh || !flow) s (c.nextLine s)
    else if comment || x == ' ' || (x == '\t' && (flow || !fresh)) ||
        (x == '\ufeff' && c.column == 0) then
      skipFrom flow comment fresh s (c.nextColumn x s)
    else if x == '#' then skipFrom flow true fresh s (c.nextColumn x s)
    else ({ c with rest := x :: s }, fresh)

/-- The next place that means something, and whether a key may start there. -/
def skip (c : Cursor) (flow fresh : Bool) : Cursor × Bool := skipFrom flow false fresh c.rest c

/-! ## Marks -/

/-- Whether a mark of three characters fills the start of a line. -/
def isMarker (mark : List Char) (c : Cursor) : Bool :=
  c.column == 0 && mark.isPrefixOf c.rest && isBlankAhead (c.rest.drop 3)

/-- Whether a document starts here. -/
def atStart (c : Cursor) : Bool := c.isMarker ['-', '-', '-']

/-- Whether a document ends here by its mark. -/
def atStop (c : Cursor) : Bool := c.isMarker ['.', '.', '.']

/-- Whether a character stands here. -/
def sees (c : Cursor) (mark : Char) : Bool := c.rest.head? == some mark

end Cursor

end PackQuery.Yaml
