import PackQuery.Json.Basic
import PackQuery.Text.Numeral

/-!
# Reading JSON

A reader gives the value at the start of some characters and the characters behind it. Strings
are read in two steps: first into characters and escaped UTF-16 units, then into text, which fails
if a unit is half of a surrogate pair without the other half.
-/

namespace PackQuery.Json

/-! ## Blanks and numbers -/

/-- Whether a character may stand between the parts of a value. -/
def isBlank (c : Char) : Bool := c == ' ' || c == '\n' || c == '\t' || c == '\r'

/-- The characters from the first one that is not blank. -/
def skipBlanks (s : List Char) : List Char := s.dropWhile isBlank

/-- One or more digits. -/
def digits? (s : List Char) : Option (List Char × List Char) :=
  match s.takeWhile Char.isDigit with
  | [] => none
  | ds => some (ds, s.dropWhile Char.isDigit)

/-- The digits before a point: without a leading zero, unless there is just a zero. -/
def integerPart? (s : List Char) : Option (List Char × List Char) :=
  match digits? s with
  | some (['0'], rest) => some (['0'], rest)
  | some ('0' :: _, _) => none
  | r => r

/-- The digits behind a point, if there is a point. -/
def fraction? : List Char → Option (List Char × List Char)
  | '.' :: s => (digits? s).map fun (ds, rest) => ('.' :: ds, rest)
  | s => some ([], s)

/-- The sign at the start, if there is one. -/
def sign : List Char → List Char × List Char
  | '+' :: s => (['+'], s)
  | '-' :: s => (['-'], s)
  | s => ([], s)

/-- The exponent, if there is one. -/
def exponent? : List Char → Option (List Char × List Char)
  | c :: s =>
    if c == 'e' || c == 'E' then
      (digits? (sign s).2).map fun (ds, rest) => (c :: (sign s).1 ++ ds, rest)
    else some ([], c :: s)
  | [] => some ([], [])

/-- A number literal. -/
def number? (s : List Char) : Option (List Char × List Char) := do
  let (minus, s) := match s with
    | '-' :: s => (['-'], s)
    | s => ([], s)
  let (whole, s) ← integerPart? s
  let (part, s) ← fraction? s
  let (power, s) ← exponent? s
  return (minus ++ whole ++ part ++ power, s)

/-! ## Strings -/

/-- A part of a string literal: a character or an escaped UTF-16 unit. -/
inductive Unit16 where
  | char (c : Char)
  | escaped (n : Nat)
deriving DecidableEq, Repr

/-- The character of an escape with one letter. -/
def shortEscape? : Char → Option Char
  | '"' => some '"'
  | '\\' => some '\\'
  | '/' => some '/'
  | 'b' => some '\x08'
  | 'f' => some '\x0c'
  | 'n' => some '\n'
  | 'r' => some '\r'
  | 't' => some '\t'
  | _ => none

/-- The parts of a string literal behind its opening quote, and what follows the closing one. -/
def units? : List Char → Option (List Unit16 × List Char)
  | [] => none
  | '"' :: rest => some ([], rest)
  | '\\' :: 'u' :: a :: b :: c :: d :: rest => do
    let n ← Numeral.natural? 16 [a, b, c, d]
    let (us, rest) ← units? rest
    return (.escaped n :: us, rest)
  | '\\' :: c :: rest => do
    let c ← shortEscape? c
    let (us, rest) ← units? rest
    return (.char c :: us, rest)
  | c :: rest =>
    if c.toNat < 32 then none
    else do
      let (us, rest) ← units? rest
      return (.char c :: us, rest)

/-- The character with a given code point. -/
def charOfCode? (n : Nat) : Option Char :=
  if h : n.isValidChar then some (Char.ofNatAux n h) else none

/-- The code point of two surrogates. -/
def pairCode (high low : Nat) : Nat := 0x10000 + (high - 0xD800) * 0x400 + (low - 0xDC00)

/-- The characters that the parts of a string denote. -/
def decode? : List Unit16 → Option (List Char)
  | [] => some []
  | .char c :: us => (decode? us).map (c :: ·)
  | .escaped n :: us =>
    if 0xD800 ≤ n ∧ n < 0xDC00 then
      match us with
      | .escaped m :: us =>
        if 0xDC00 ≤ m ∧ m < 0xE000 then do
          let c ← charOfCode? (pairCode n m)
          return c :: (← decode? us)
        else none
      | _ => none
    else do
      let c ← charOfCode? n
      return c :: (← decode? us)

/-- A string literal behind its opening quote. -/
def string? (s : List Char) : Option (Option String × List Char) :=
  (units? s).map fun (us, rest) => ((decode? us).map String.ofList, rest)

/-! ## Values -/

mutual

/-- A value; `fuel` bounds the number of nested readings. -/
def readValue : Nat → List Char → Option (Json × List Char)
  | 0, _ => none
  | fuel + 1, s =>
    match skipBlanks s with
    | 'n' :: 'u' :: 'l' :: 'l' :: rest => some (null, rest)
    | 't' :: 'r' :: 'u' :: 'e' :: rest => some (bool true, rest)
    | 'f' :: 'a' :: 'l' :: 's' :: 'e' :: rest => some (bool false, rest)
    | '"' :: rest => (string? rest).map fun (t, rest) => (string t, rest)
    | '[' :: rest =>
      match skipBlanks rest with
      | ']' :: rest => some (array [], rest)
      | rest => (readValues fuel rest).map fun (vs, rest) => (array vs, rest)
    | '\x7b' :: rest =>
      match skipBlanks rest with
      | '\x7d' :: rest => some (object [], rest)
      | rest => (readMembers fuel rest).map fun (ms, rest) => (object ms, rest)
    | rest => (number? rest).map fun (n, rest) => (number (String.ofList n), rest)

/-- One or more values and the closing bracket. -/
def readValues : Nat → List Char → Option (List Json × List Char)
  | 0, _ => none
  | fuel + 1, s => do
    let (v, rest) ← readValue fuel s
    match skipBlanks rest with
    | ',' :: rest =>
      let (vs, rest) ← readValues fuel rest
      return (v :: vs, rest)
    | ']' :: rest => return ([v], rest)
    | _ => none

/-- One or more members and the closing brace. -/
def readMembers : Nat → List Char → Option (List (Option String × Json) × List Char)
  | 0, _ => none
  | fuel + 1, s =>
    match skipBlanks s with
    | '"' :: rest => do
      let (k, rest) ← string? rest
      match skipBlanks rest with
      | ':' :: rest =>
        let (v, rest) ← readValue fuel rest
        match skipBlanks rest with
        | ',' :: rest =>
          let (ms, rest) ← readMembers fuel rest
          return ((k, v) :: ms, rest)
        | '\x7d' :: rest => return ([(k, v)], rest)
        | _ => none
      | _ => none
    | _ => none

end

/-- The value of a text that holds one value and blanks around it. Every reading but those of
brackets takes characters away, so twice the length of the text bounds them. -/
def read? (s : String) : Option Json :=
  match readValue (2 * s.toList.length + 2) s.toList with
  | some (v, rest) => if (skipBlanks rest).isEmpty then some v else none
  | none => none

end PackQuery.Json
