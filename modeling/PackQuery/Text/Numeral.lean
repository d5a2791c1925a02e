import PackQuery.Text.Cut

/-!
# Numerals

Reading unsigned 64-bit and signed 32-bit numbers. Blank characters around a numeral do not
count, `0x` or `0X` in front makes it hexadecimal, one `+` may stand before the digits, and a
numeral without digits or with a value out of range is no number. A hexadecimal numeral read as a
signed number gives the bits of the number, so `0xFFFFFFFF` is `-1`.
-/

namespace PackQuery.Numeral

/-- The value of a digit in a radix up to 36. -/
def digit? (radix : Nat) (c : Char) : Option Nat :=
  let v :=
    if '0' ≤ c ∧ c ≤ '9' then c.toNat - '0'.toNat
    else if 'a' ≤ c ∧ c ≤ 'z' then c.toNat - 'a'.toNat + 10
    else if 'A' ≤ c ∧ c ≤ 'Z' then c.toNat - 'A'.toNat + 10
    else radix
  if v < radix then some v else none

/-- The number that digits and nothing else denote; at least one digit is needed. -/
def natural? (radix : Nat) (s : List Char) : Option Nat :=
  if s.isEmpty then none
  else s.foldlM (fun n c => (digit? radix c).map (n * radix + ·)) 0

/-- The characters without one leading plus sign. -/
def dropPlus : List Char → List Char
  | '+' :: s => s
  | s => s

/-- 2³¹: signed 32-bit numbers are below it. -/
def limit31 : Nat := 0x80000000

/-- 2³²: unsigned 32-bit numbers are below it. -/
def limit32 : Nat := 0x100000000

/-- 2⁶⁴: unsigned 64-bit numbers are below it. -/
def limit64 : Nat := 0x10000000000000000

/-- A number below a bound. -/
def below (bound : Nat) (n : Nat) : Option Nat :=
  if n < bound then some n else none

/-- What follows the mark of a hexadecimal numeral. -/
def hexadecimal? : List Char → Option (List Char)
  | '0' :: 'x' :: s => some s
  | '0' :: 'X' :: s => some s
  | _ => none

/-- A decimal numeral below 2⁶⁴, nothing around it. -/
def decimal64? (s : List Char) : Option Nat :=
  (natural? 10 (dropPlus s)).bind (below limit64)

/-- The unsigned number of a trimmed numeral. -/
def unsignedOf? (s : List Char) : Option Nat :=
  match hexadecimal? s with
  | some digits => (natural? 16 (dropPlus digits)).bind (below limit64)
  | none => decimal64? s

/-- The 32-bit number whose two's complement is `n`. -/
def wordToInt (n : Nat) : Int :=
  if n < limit31 then n else n - limit32

/-- The signed number of a trimmed numeral. -/
def signedOf? (s : List Char) : Option Int :=
  if (hexadecimal? s).isSome then
    ((unsignedOf? s).bind (below limit32)).map wordToInt
  else match s with
    | '-' :: digits => ((natural? 10 digits).bind (below (limit31 + 1))).map fun n => -(n : Int)
    | _ => ((natural? 10 (dropPlus s)).bind (below limit31)).map fun n => (n : Int)

/-- The unsigned 64-bit number that a text denotes. -/
def unsigned64? (s : String) : Option Nat :=
  unsignedOf? (Text.trimChars s.toList)

/-- The unsigned 32-bit number that a text denotes. -/
def unsigned32? (s : String) : Option Nat :=
  (unsigned64? s).bind (below limit32)

/-- The signed 32-bit number that a text denotes. -/
def signed32? (s : String) : Option Int :=
  signedOf? (Text.trimChars s.toList)

end PackQuery.Numeral
