import PackQuery.Text.Numeral
import PackQuery.Yaml.Basic
import PackQuery.Yaml.Cursor

/-!
# Block scalars

A block scalar is a header and the indented lines below it. A literal block keeps its line ends; a
folded block joins neighbouring lines that do not start with a blank. Both keep one line end at
the end of the text, or none with `-` in the header, or all with `+`.

**Indentation.** The blanks in front of the first line say how far the block is indented, unless
the header gives a digit for it, as it must for a text that starts with a space or a line end. The
block ends at the first line that is indented less.
-/

namespace PackQuery.Yaml.Block

/-- Which line ends remain at the end of a text. -/
inductive Chomping where
  | strip | clip | keep
deriving DecidableEq, Repr

/-- What the header of a block says. -/
structure Header where
  style : ScalarStyle
  chomping : Chomping := .clip
  /-- The indentation of the block relative to that of its parent. -/
  increment : Option Nat := none
deriving DecidableEq, Repr

/-! ## Writing -/

/-- The chomping that keeps the end of a text. -/
def chompingOf (s : List Char) : Chomping :=
  match s.reverse with
  | [] => .strip
  | [c] => if isBreak c then .keep else .strip
  | c :: d :: _ => if !isBreak c then .strip else if isBreak d then .keep else .clip

/-- The mark of a chomping. -/
def Chomping.mark : Chomping → List Char
  | strip => ['-']
  | clip => []
  | keep => ['+']

/-- The digit in the header of a text, if there must be one. -/
def incrementMark : List Char → List Char
  | [] => []
  | c :: _ => if c == ' ' || isBreak c then ['2'] else []

/-- The lines of a text, each with the blanks of the indentation in front. -/
def linesFrom (indent : Nat) (newLine : Bool) : List Char → List Char
  | [] => []
  | c :: s =>
    if isBreak c then c :: linesFrom indent true s
    else (if newLine then List.replicate indent ' ' else []) ++ c :: linesFrom indent false s

/-- A text as a literal block that ends with a line end, two columns behind its parent. -/
def literal (indent : Nat) (s : List Char) : List Char :=
  '|' :: incrementMark s ++ (chompingOf s).mark ++ '\n' :: linesFrom indent true s ++
    (if s.getLast?.any isBreak then [] else ['\n'])

/-! ## Reading the header -/

/-- The chomping of a mark. -/
def chomping? : Char → Option Chomping
  | '-' => some .strip
  | '+' => some .keep
  | _ => none

/-- The increment of a digit. -/
def increment? (c : Char) : Option Nat :=
  if c.isDigit then some (c.toNat - '0'.toNat) else none

/-- A header with the marks behind its first character, and how many there are. -/
def withMarks (h : Header) : List Char → Header × Nat
  | [] => (h, 0)
  | a :: s =>
    match chomping? a, increment? a with
    | some k, _ =>
      match s.head?.bind increment? with
      | some n => ({ h with chomping := k, increment := some n }, 2)
      | none => ({ h with chomping := k }, 1)
    | none, some n =>
      match s.head?.bind chomping? with
      | some k => ({ h with chomping := k, increment := some n }, 2)
      | none => ({ h with increment := some n }, 1)
    | none, none => (h, 0)

/-- The header at a place and the place of its line end. -/
def header? (c : Cursor) : Option (Header × Cursor) := do
  let style ← match c.rest.head? with
    | some '|' => some ScalarStyle.literal
    | some '>' => some ScalarStyle.folded
    | _ => none
  let (h, count) := withMarks { style } (c.rest.drop 1)
  let rest := (c.rest.drop (count + 1)).dropWhile isBlank
  let rest := if rest.head? == some '#' then rest.dropWhile (!isBreak ·) else rest
  if h.increment == some 0 then none
  else if isBlankAhead rest then some (h, c.upTo rest) else none

/-! ## Reading the lines -/

/-- The indentation that blank lines and the first other line of a block show; a tab must not
follow the spaces. `column` is the place in the current line, `widest` the indentation so far. -/
def widestIndent? (column widest : Nat) : List Char → Option Nat
  | [] => some (max column widest)
  | c :: s =>
    if c == ' ' then widestIndent? (column + 1) widest s
    else if isBreak c then widestIndent? 0 (max column widest) s
    else if c == '\t' then none
    else some (max column widest)

/-- What has been read of a block. -/
structure Progress where
  /-- The text, the last character first. -/
  read : List Char := []
  /-- Whether the place is behind the indentation of a line. -/
  inLine : Bool := false
  /-- Whether the last line starts with a blank. -/
  blankStart : Bool := false
  /-- The end of the last line, if it has ended. -/
  lineEnd : List Char := []
  /-- The blank lines since then, the last one first. -/
  blankLines : List Char := []

namespace Progress

/-- At the start of a line whose first character is given: the line ends before it become part of
the text, where one between two lines of a folded block becomes a space or nothing. -/
def startLine (p : Progress) (style : ScalarStyle) (first : Char) : Progress :=
  let joins := style == .folded && p.lineEnd == ['\n'] && !p.blankStart && !isBlank first
  let between :=
    if joins then (if p.blankLines.isEmpty then [' '] else p.blankLines)
    else p.blankLines ++ p.lineEnd
  { read := first :: (between ++ p.read), inLine := true, blankStart := isBlank first }

/-- The text at the end of a block. -/
def text (p : Progress) : Chomping → List Char
  | .strip => p.read.reverse
  | .clip => (p.lineEnd ++ p.read).reverse
  | .keep => (p.blankLines ++ p.lineEnd ++ p.read).reverse

end Progress

/-- The lines of a block that is indented up to a column, and the place behind them. -/
def readLines (h : Header) (indent : Nat) :
    List Char → Progress → Cursor → Option (String × Cursor)
  | [], p, c => some (String.ofList (p.text h.chomping), { c with rest := [] })
  | x :: s, p, c =>
    if p.inLine then
      if isBreak x then
        readLines h indent s { p with inLine := false, lineEnd := [x] } (c.nextLine s)
      else readLines h indent s { p with read := x :: p.read } (c.nextColumn x s)
    else if x == ' ' && c.column < indent then readLines h indent s p (c.nextColumn x s)
    else if x == '\t' && c.column < indent then none
    else if isBreak x then
      readLines h indent s { p with blankLines := x :: p.blankLines } (c.nextLine s)
    else if c.column == indent then readLines h indent s (p.startLine h.style x) (c.nextColumn x s)
    else some (String.ofList (p.text h.chomping), c)

/-- The block scalar whose header stands at a place. The least column of its lines is `indent`,
which is one more than that of its parent, or zero without a parent. -/
def read? (indent : Nat) (c : Cursor) : Option (ScalarStyle × String × Cursor) := do
  let (h, c) ← header? c
  let s := c.rest.drop 1
  let column ← match h.increment with
    | some n => some (indent - 1 + n)
    | none => (widestIndent? 0 0 s).map fun n => max n (max indent 1)
  (readLines h column s {} (c.nextLine s)).map (h.style, ·)

end PackQuery.Yaml.Block
