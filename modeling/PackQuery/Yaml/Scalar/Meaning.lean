import PackQuery.Text.Numeral

/-!
# What plain scalars mean

A plain scalar without a tag is null, a truth value, a number or else a text. A text that would
be taken for something else has to be quoted.

**Numbers.** Integers are decimal, or hexadecimal, octal or binary behind `0x`, `0o` or `0b`, with
an optional sign, and have at most 128 bits. Decimal numbers may have a fraction and an exponent
and must not be larger than the largest finite double. Digits behind a leading zero make no
number, but are quoted all the same.
-/

namespace PackQuery.Yaml

/-- Whether a plain scalar is null. -/
def isNull (s : String) : Bool := ["null", "Null", "NULL", "~"].contains s

/-- The truth value of a plain scalar. -/
def bool? (s : String) : Option Bool :=
  if ["true", "True", "TRUE"].contains s then some true
  else if ["false", "False", "FALSE"].contains s then some false
  else none

namespace Number

/-- The characters without one leading sign. -/
def dropSign : List Char → List Char
  | '+' :: s => s
  | '-' :: s => s
  | s => s

/-- Whether digits stand behind a leading zero. -/
def isPadded (s : List Char) : Bool :=
  match dropSign s with
  | '0' :: d :: ds => (d :: ds).all Char.isDigit
  | _ => false

/-- The radix of a mark, and the digits behind the mark. -/
def marked? : List Char → Option (Nat × List Char)
  | '0' :: 'x' :: s => some (16, s)
  | '0' :: 'o' :: s => some (8, s)
  | '0' :: 'b' :: s => some (2, s)
  | _ => none

/-- Whether the digits behind a mark denote a number below a bound. -/
def isMarkedBelow (bound : Nat) (s : List Char) : Bool :=
  ((marked? s).bind fun (radix, digits) =>
    (Numeral.natural? radix digits).bind (Numeral.below bound)).isSome

/-- Whether a marked integer has at most 128 bits. -/
def isMarkedInteger : List Char → Bool
  | '-' :: s => isMarkedBelow (Nat.pow 2 127 + 1) s
  | s => isMarkedBelow (Nat.pow 2 128) (Numeral.dropPlus s)

/-- The least number that is nearer to the double after the largest finite one. -/
def finiteBound : Nat := Nat.pow 2 1024 - Nat.pow 2 970

/-- Whether `n * 10 ^ e` is finite as a double, where `n` has at most `digits` digits. -/
def isFinite (n digits : Nat) (e : Int) : Bool :=
  if n = 0 ∨ digits + e ≤ 308 then true
  else if e > 309 then false
  else if 0 ≤ e then n * Nat.pow 10 e.toNat < finiteBound
  else n < finiteBound * Nat.pow 10 (-e).toNat

/-- The number that some digits denote, zero without digits. -/
def valueOf (digits : List Char) : Nat := (Numeral.natural? 10 digits).getD 0

/-- The value of an exponent, nothing if what follows a number is no exponent. -/
def exponent? : List Char → Option Int
  | [] => some 0
  | c :: s =>
    if c == 'e' || c == 'E' then
      match s with
      | '-' :: digits => (Numeral.natural? 10 digits).map fun n => -(n : Int)
      | _ => (Numeral.natural? 10 (Numeral.dropPlus s)).map fun n => (n : Int)
    else none

/-- The digits behind a point, and what follows them. -/
def fraction : List Char → List Char × List Char
  | '.' :: s => (s.takeWhile Char.isDigit, s.dropWhile Char.isDigit)
  | s => ([], s)

/-- Whether an unsigned decimal number is finite as a double. -/
def isFiniteDecimal (s : List Char) : Bool :=
  let whole := s.takeWhile Char.isDigit
  let (part, rest) := fraction (s.dropWhile Char.isDigit)
  match exponent? rest with
  | some e =>
    let digits := whole ++ part
    !digits.isEmpty && isFinite (valueOf digits) digits.length (e - part.length)
  | none => false

/-- Whether a text is one of the names of infinity or of what is no number. -/
def isNamed (s : List Char) : Bool :=
  [".inf", ".Inf", ".INF", "+.inf", "+.Inf", "+.INF", "-.inf", "-.Inf", "-.INF", ".nan", ".NaN",
    ".NAN"].contains (String.ofList s)

end Number

/-- Whether a plain scalar is a number. -/
def isNumber (s : List Char) : Bool :=
  Number.isMarkedInteger s || Number.isNamed s ||
    (!Number.isPadded s && Number.isFiniteDecimal (Number.dropSign s))

/-- Whether a text has to be quoted to be a text. -/
def isAmbiguous (s : List Char) : Bool :=
  s.isEmpty || isNull (String.ofList s) || (bool? (String.ofList s)).isSome ||
    Number.isPadded s || isNumber s

end PackQuery.Yaml
