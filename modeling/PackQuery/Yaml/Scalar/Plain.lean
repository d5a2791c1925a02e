import PackQuery.Yaml.Cursor

/-!
# Gaps and plain scalars

Between the visible characters of a plain or quoted scalar there are gaps of blanks and line
ends. Blanks within a line count as they are. A gap with line ends loses its blanks: one line end
becomes a space, and of several the first one is dropped. A line separator in first place is kept,
and a line end that is escaped leaves nothing.

A plain scalar ends at a colon in front of a blank, at a number sign behind one, in flow
collections at a bracket, a brace or a comma, and at a line that is indented too little or marks
the start or the end of a document. Its lines are joined. Line ends behind it belong to it, so its
reader says whether there are any.
-/

namespace PackQuery.Yaml

/-! ## Gaps -/

/-- What has been read since the last visible character. -/
inductive Gap where
  /-- Blanks, the last one first. -/
  | blanks (read : List Char)
  /-- A first line end, unless it is escaped, and further ones, the last one first. -/
  | lines (first : Option Char) (more : List Char)
deriving DecidableEq, Repr

namespace Gap

/-- The gap without anything in it. -/
def empty : Gap := blanks []

/-- Whether nothing has been read. -/
def isEmpty (g : Gap) : Bool := g == empty

/-- Whether the gap holds line ends. -/
def isBroken : Gap → Bool
  | blanks _ => false
  | lines _ _ => true

/-- The gap with one more blank. -/
def addBlank (c : Char) : Gap → Gap
  | blanks read => blanks (c :: read)
  | lines first more => lines first more

/-- The gap with one more line end. -/
def addBreak (c : Char) : Gap → Gap
  | blanks _ => lines (some c) []
  | lines first more => lines first (c :: more)

/-- What the gap means, the last character first. -/
def reversed : Gap → List Char
  | blanks read => read
  | lines none more => more
  | lines (some '\n') [] => [' ']
  | lines (some '\n') more => more
  | lines (some c) more => more ++ [c]

end Gap

/-! ## Plain scalars -/

namespace Plain

/-- The characters that end a plain scalar in a flow collection. -/
def flowMarks : List Char := [',', '[', ']', '\x7b', '\x7d']

/-- Whether a colon stands where only a key could end, without a blank behind it. -/
def isTightColon (flow : Bool) : List Char → Bool
  | ':' :: c :: _ => flow && (flowMarks.contains c || c == '?')
  | _ => false

/-- Whether some characters end a plain scalar, wherever they stand. -/
def isEnd (flow : Bool) : List Char → Bool
  | [] => true
  | c :: s => (c == ':' && isBlankAhead s) || (flow && flowMarks.contains c)

/-- Whether a plain scalar does not go on behind a gap. -/
def stopsBehind (gap : Gap) (flow : Bool) (indent : Nat) (c : Cursor) : Bool :=
  !gap.isEmpty && (c.sees '#' ||
    (gap.isBroken && (c.atStart || c.atStop || (!flow && c.column < indent))))

/-- The text, whether line ends follow it, and the place behind. -/
def finish (gap : Gap) (read : List Char) (c : Cursor) : String × Bool × Cursor :=
  (String.ofList read.reverse, gap.isBroken, c)

/-- The rest of a plain scalar. `read` is its text so far, the last character first, without the
gap before the place; the lines behind the first one start at the column `indent` or later. -/
def readFrom (flow : Bool) (indent : Nat) :
    List Char → Gap → List Char → Cursor → Option (String × Bool × Cursor)
  | [], gap, read, c => some (finish gap read { c with rest := [] })
  | x :: s, gap, read, c =>
    if isBreak x then readFrom flow indent s (gap.addBreak x) read (c.nextLine s)
    else if isBlank x then
      if x == '\t' && gap.isBroken && c.column < indent then none
      else readFrom flow indent s (gap.addBlank x) read (c.nextColumn x s)
    else if stopsBehind gap flow indent c then some (finish gap read c)
    else if isTightColon flow (x :: s) then none
    else if isEnd flow (x :: s) then some (finish gap read c)
    else readFrom flow indent s .empty (x :: (gap.reversed ++ read)) (c.nextColumn x s)

/-- The plain scalar at a place. -/
def read? (flow : Bool) (indent : Nat) (c : Cursor) : Option (String × Bool × Cursor) :=
  readFrom flow indent c.rest .empty [] c

/-- Whether a plain scalar starts with some characters. -/
def starts (flow : Bool) : List Char → Bool
  | [] => false
  | c :: s =>
    if c == '-' then !isBlankAhead s
    else if c == '?' || c == ':' then !flow && !isBlankAhead s
    else !(isBlank c || isBreak c || flowMarks.contains c ||
      ['#', '&', '*', '!', '|', '>', '\'', '"', '%', '@', '\x60'].contains c)

end Plain

end PackQuery.Yaml
