import PackQuery.Text.Numeral
import PackQuery.Yaml.Basic
import PackQuery.Yaml.Scalar.Plain

/-!
# Quoted scalars

Between single quotes a quote is written twice and nothing else is changed. Between double quotes
a backslash starts an escape: a letter for one character, or the code point of a character in two,
four or eight hexadecimal digits. Line ends within quotes are joined; an escaped one is dropped.

A line separator is written as it is, and the next line is indented like any other.
-/

namespace PackQuery.Yaml.Quoted

/-! ## Escapes -/

/-- The characters with an escape of one letter, and the letters. -/
def letters : List (Char × Char) :=
  [('\x00', '0'), ('\x07', 'a'), ('\x08', 'b'), ('\t', 't'), ('\n', 'n'), ('\x0b', 'v'),
   ('\x0c', 'f'), ('\r', 'r'), ('\x1b', 'e'), ('"', '"'), ('\\', '\\'), ('\x85', 'N'),
   ('\u00a0', '_'), ('\u2028', 'L'), ('\u2029', 'P')]

/-- The character of a letter behind a backslash. Blanks, slashes and tabs escape themselves. -/
def ofLetter? (letter : Char) : Option Char :=
  match letters.find? (·.2 == letter) with
  | some (c, _) => some c
  | none => if [' ', '/', '\t'].contains letter then some letter else none

/-- The character of a code point in hexadecimal digits. -/
def ofDigits? (digits : List Char) : Option Char :=
  match Numeral.natural? 16 digits with
  | some n => if h : n.isValidChar then some (Char.ofNatAux n h) else none
  | none => none

/-- A hexadecimal digit. -/
def hexDigit (n : Nat) : Char := if n < 10 then Nat.digitChar n else Char.ofNat (n + 55)

/-- A number in a given count of hexadecimal digits. -/
def hexDigits : Nat → Nat → List Char
  | 0, _ => []
  | count + 1, n => hexDigits count (n / 16) ++ [hexDigit (n % 16)]

/-- The escape of a character. -/
def escape (c : Char) : List Char :=
  match letters.find? (·.1 == c) with
  | some (_, letter) => ['\\', letter]
  | none =>
    if c.toNat < 0x100 then '\\' :: 'x' :: hexDigits 2 c.toNat
    else if c.toNat < 0x10000 then '\\' :: 'u' :: hexDigits 4 c.toNat
    else '\\' :: 'U' :: hexDigits 8 c.toNat

/-- Whether a character needs an escape between double quotes. -/
def isEscaped (c : Char) : Bool := !isPrintable c || isBreak c || c == '"' || c == '\\'

/-! ## Writing -/

/-- A text between double quotes. -/
def double (s : List Char) : List Char :=
  '"' :: s.flatMap (fun c => if isEscaped c then escape c else [c]) ++ ['"']

/-- The characters behind one another with quotes written twice; behind line ends, the blanks of
the indentation. -/
def singleFrom (indent : Nat) (newLine : Bool) : List Char → List Char
  | [] => if newLine then List.replicate indent ' ' else []
  | c :: s =>
    if isBreak c then c :: singleFrom indent true s
    else
      (if newLine then List.replicate indent ' ' else []) ++
        (if c == '\'' then ['\'', '\''] else [c]) ++ singleFrom indent false s

/-- A text between single quotes. -/
def single (indent : Nat) (s : List Char) : List Char := '\'' :: singleFrom indent false s ++ ['\'']

/-! ## Reading -/

/-- The text and the place behind it. -/
def finish (gap : Gap) (read : List Char) (c : Cursor) : String × Cursor :=
  (String.ofList (gap.reversed ++ read).reverse, c)

/-- The rest of a text between single quotes. `read` is the text so far, the last character first,
without the gap before the place. -/
def readSingle : List Char → Gap → List Char → Cursor → Option (String × Cursor)
  | [], _, _, _ => none
  | '\'' :: '\'' :: s, gap, read, c =>
    readSingle s .empty ('\'' :: (gap.reversed ++ read)) (c.past 2)
  | '\'' :: _, gap, read, c => some (finish gap read (c.past 1))
  | x :: s, gap, read, c =>
    if gap.isBroken && (c.atStart || c.atStop) then none
    else if isBreak x then readSingle s (gap.addBreak x) read (c.nextLine s)
    else if isBlank x then readSingle s (gap.addBlank x) read (c.nextColumn x s)
    else readSingle s .empty (x :: (gap.reversed ++ read)) (c.nextColumn x s)

/-- The rest of a text between double quotes. -/
def readDouble : List Char → Gap → List Char → Cursor → Option (String × Cursor)
  | [], _, _, _ => none
  | '"' :: _, gap, read, c => some (finish gap read (c.past 1))
  | '\\' :: 'x' :: a :: b :: s, gap, read, c => do
    let x ← ofDigits? [a, b]
    readDouble s .empty (x :: (gap.reversed ++ read)) (c.past 4)
  | '\\' :: 'u' :: a₁ :: a₂ :: a₃ :: a₄ :: s, gap, read, c => do
    let x ← ofDigits? [a₁, a₂, a₃, a₄]
    readDouble s .empty (x :: (gap.reversed ++ read)) (c.past 6)
  | '\\' :: 'U' :: a₁ :: a₂ :: a₃ :: a₄ :: a₅ :: a₆ :: a₇ :: a₈ :: s, gap, read, c => do
    let x ← ofDigits? [a₁, a₂, a₃, a₄, a₅, a₆, a₇, a₈]
    readDouble s .empty (x :: (gap.reversed ++ read)) (c.past 10)
  | '\\' :: letter :: s, gap, read, c =>
    if isBreak letter then
      readDouble s (.lines none []) (gap.reversed ++ read) (c.nextLine s)
    else do
      let x ← ofLetter? letter
      readDouble s .empty (x :: (gap.reversed ++ read)) (c.past 2)
  | x :: s, gap, read, c =>
    if gap.isBroken && (c.atStart || c.atStop) then none
    else if isBreak x then readDouble s (gap.addBreak x) read (c.nextLine s)
    else if isBlank x then readDouble s (gap.addBlank x) read (c.nextColumn x s)
    else readDouble s .empty (x :: (gap.reversed ++ read)) (c.nextColumn x s)

/-- The quoted scalar whose quote stands at a place. -/
def read? (c : Cursor) : Option (ScalarStyle × String × Cursor) :=
  match c.rest with
  | '\'' :: s => (readSingle s .empty [] (c.past 1)).map (.singleQuoted, ·)
  | '"' :: s => (readDouble s .empty [] (c.past 1)).map (.doubleQuoted, ·)
  | _ => none

end PackQuery.Yaml.Quoted
