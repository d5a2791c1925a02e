import PackQuery.Yaml.Basic
import PackQuery.Yaml.Cursor
import PackQuery.Yaml.Scalar.Meaning

/-!
# The style of a text

A text is written plain where it can stand so, between single quotes otherwise, and as a literal
block if it holds a line feed. Double quotes, which can hold every text, are left to texts that
the other styles would change: those with characters that are not printable, with blanks in front
of a line end, or, in a block, with a blank at the end.

**Plain texts.** A plain text must not start with a mark that YAML gives a meaning, must hold no
colon in front of a blank and no number sign behind one, must not start or end with a space, and
stands on one line.
-/

namespace PackQuery.Yaml.Style

/-- The marks that no plain text starts with. -/
def openingMarks : List Char :=
  ['#', ',', '[', ']', '\x7b', '\x7d', '&', '*', '!', '|', '>', '\'', '"', '%', '@', '\x60']

/-- The marks that a plain text starts with only if no blank follows. -/
def guardedMarks : List Char := ['?', ':', '-']

/-- Whether a text starts with something that has a meaning at the start of a node. -/
def startsMarked : List Char → Bool
  | [] => false
  | c :: s =>
    openingMarks.contains c || (guardedMarks.contains c && isBlankAhead s) ||
      ['-', '-', '-'].isPrefixOf (c :: s) || ['.', '.', '.'].isPrefixOf (c :: s)

/-- Whether a colon in front of a blank or a number sign behind one occurs, the first character
apart, where `previous` stands before the characters. -/
def isInterrupted (previous : Char) : List Char → Bool
  | [] => false
  | c :: s =>
    (c == ':' && isBlankAhead s) || (c == '#' && isBlankAhead [previous]) || isInterrupted c s

/-- Whether two characters with given properties stand side by side. -/
def hasPair (first second : Char → Bool) : List Char → Bool
  | a :: b :: s => (first a && second b) || hasPair first second (b :: s)
  | _ => false

/-- Whether a character is the space. -/
def isSpace (c : Char) : Bool := c == ' '

/-- Whether some character must be escaped, as only double quotes allow. -/
def needsEscape (s : List Char) : Bool :=
  hasPair isSpace isBreak s || s.any (!isPrintable ·)

/-- Whether a text can stand plain. -/
def canBePlain (s : List Char) : Bool :=
  match s with
  | [] => false
  | c :: rest =>
    !(startsMarked s || isInterrupted c rest || isSpace c || isSpace (s.getLastD c) ||
      s.any isBreak || needsEscape s)

/-- Whether a text can stand between single quotes. -/
def canBeSingleQuoted (s : List Char) : Bool := !(hasPair isBreak isSpace s || needsEscape s)

/-- Whether a text can be a literal block. -/
def canBeLiteral (s : List Char) : Bool := !((s.getLast?.any isSpace) || needsEscape s)

/-- The style in which a text is written. -/
def ofText (s : List Char) : ScalarStyle :=
  if s.contains '\n' then
    if canBeLiteral s then .literal else .doubleQuoted
  else if canBePlain s && !isAmbiguous s then .plain
  else if canBeSingleQuoted s then .singleQuoted
  else .doubleQuoted

end PackQuery.Yaml.Style
