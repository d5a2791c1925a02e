import PackQuery.Regex.Reader

/-!
# Wildcard patterns

In a pattern `?` stands for one character, `*` for any run of characters, and brackets enclose a
class. A pattern has its meaning through a regular expression: `?` and `*` become `.` and `.*`, a
class is kept as it stands, and every other character is escaped where the language of regular
expressions needs it. A pattern whose expression is invalid matches nothing.

**Ends of classes.** A class ends at its first closing bracket, except that a bracket right at its
start, or behind a caret at its start, is a member.

Either side of `Wildcard.agree` may be a pattern, so the test is symmetric.
-/

namespace PackQuery.Wildcard

/-- Whether a character makes a text a pattern. -/
def isMark (c : Char) : Bool := ['?', '*', '[', ']'].contains c

/-- Whether a text is a pattern. -/
def isPattern (s : String) : Bool := s.toList.any isMark

/-! ## The regular expression of a pattern -/

/-- Where in a pattern a character stands, as far as classes go. -/
inductive Place where
  /-- Outside classes. -/
  | outside
  /-- First in a class. -/
  | first
  /-- Behind a caret that is first in a class. -/
  | afterCaret
  /-- Later in a class. -/
  | within
deriving DecidableEq, Repr

/-- The place behind a character of a class. -/
def Place.next : Place → Char → Place
  | .first, '^' => .afterCaret
  | .first, _ => .within
  | .afterCaret, _ => .within
  | _, ']' => .outside
  | p, _ => p

/-- The characters that need a backslash in a regular expression. -/
def isMeta (c : Char) : Bool :=
  ['\\', '.', '+', '*', '?', '(', ')', '|', '[', ']', '\x7b', '\x7d', '^', '$', '#', '&', '-',
    '~'].contains c

/-- A character outside classes, as a regular expression. -/
def outsideClass (c : Char) : List Char :=
  if c == '?' then ['.']
  else if c == '*' then ['.', '*']
  else if c == '[' then ['[']
  else if isMeta c then ['\\', c]
  else [c]

/-- The regular expression of the characters from a place on. -/
def expressionFrom : Place → List Char → List Char
  | _, [] => []
  | .outside, c :: rest =>
    outsideClass c ++ expressionFrom (if c == '[' then .first else .outside) rest
  | p, c :: rest => c :: expressionFrom (p.next c) rest

/-- The regular expression of a pattern. -/
def expression (pattern : List Char) : List Char := expressionFrom .outside pattern

/-- The text of the regular expression of a pattern. -/
def toRegex (pattern : String) : String := String.ofList (expression pattern.toList)

/-! ## Matching -/

/-- A pattern with the items that it matches by. -/
structure Compiled where
  source : String
  items : List Regex.Item

/-- A pattern ready for matching, if its classes are valid. -/
def compile? (pattern : String) : Option Compiled :=
  (Regex.read? (expression pattern.toList)).map (Compiled.mk pattern)

/-- Whether a text matches a pattern as a whole. -/
def Compiled.accepts (p : Compiled) (text : String) : Bool :=
  Regex.matchesText p.items text.toList

/-- Whether a text, taken as it stands, matches a pattern. -/
def fits (pattern text : String) : Bool :=
  match compile? pattern with
  | some p => p.accepts text
  | none => false

/-- Whether two texts agree: they are the same, or neither is empty and one of them is a pattern
that the other one fits. -/
def agree (a b : String) : Bool :=
  if a = b then true
  else if a = "" ∨ b = "" then false
  else (isPattern a && fits a b) || (isPattern b && fits b a)

/-! ## Plain names -/

/-- A text as a name of ASCII letters, digits and underscores: wildcards become `x`, all other
characters underscores. Dashes and dots are kept on demand. -/
def toIdentifier (keepDashAndDot : Bool) (s : String) : String :=
  String.ofList (s.toList.map fun c =>
    if c.isAlphanum then c
    else if keepDashAndDot && (c == '-' || c == '.') then c
    else if c == '*' || c == '?' then 'x'
    else '_')

end PackQuery.Wildcard
