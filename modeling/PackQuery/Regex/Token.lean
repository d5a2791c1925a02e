import PackQuery.Regex.NamedSet
import PackQuery.Text.Numeral

/-!
# Tokens of regular expressions

A regular expression is first cut into tokens: an escape sequence is one token, and every other
character stands for itself. Escapes mean the same inside and outside a bracket class, so this
needs no knowledge of classes. An escape that is not known makes the whole text invalid.
-/

namespace PackQuery.Regex

/-- A piece of a regular expression. -/
inductive Token where
  /-- A character as it stands, with whatever meaning it has there. -/
  | raw (c : Char)
  /-- A character without special meaning. -/
  | literal (c : Char)
  /-- A set of characters named by an escape. -/
  | set (s : CharSet)

namespace Token

/-- The character that a token stands for, if it is one character. -/
def char? : Token → Option Char
  | raw c => some c
  | literal c => some c
  | set _ => none

/-- Whether a token is a character as it stands. -/
def isRaw (c : Char) : Token → Bool
  | raw d => d == c
  | _ => false

/-- Whether a backslash may stand in front of a character that needs none: all ASCII characters
but letters, digits and angle brackets. -/
def isEscapable (c : Char) : Bool :=
  c.toNat < 128 && !c.isAlphanum && c != '<' && c != '>'

/-- The control characters with an escape letter. -/
def control? : Char → Option Char
  | 'a' => some '\x07'
  | 'f' => some '\x0c'
  | 't' => some '\t'
  | 'n' => some '\n'
  | 'r' => some '\r'
  | 'v' => some '\x0b'
  | _ => none

/-- How many hexadecimal digits follow an escape letter. -/
def hexLength? : Char → Option Nat
  | 'x' => some 2
  | 'u' => some 4
  | 'U' => some 8
  | _ => none

/-- The character with a given code point. -/
def ofCode? (n : Nat) : Option Char :=
  if h : n.isValidChar then some (Char.ofNatAux n h) else none

/-- Where the reading stands within an escape. -/
inductive Escape where
  /-- Outside any escape. -/
  | outside
  /-- Behind the backslash. -/
  | letter
  /-- Behind a letter that hexadecimal digits follow. -/
  | hexStart (digits : Nat)
  /-- Within the digits; so many are left. -/
  | hex (left value : Nat)
  /-- Within digits between braces. -/
  | braced (value : Option Nat)
  /-- Behind the letter of a property. -/
  | property (negated : Bool)
  /-- Within a property between braces, read backwards. -/
  | propertyName (negated : Bool) (name : List Char)

/-- One more hexadecimal digit. -/
def pushHex (value : Nat) (c : Char) : Option Nat :=
  (Numeral.digit? 16 c).map (value * 16 + ·)

/-- What the character behind a backslash starts or stands for. -/
def afterBackslash (c : Char) : Option (Token ⊕ Escape) :=
  match shorthand? c, control? c, hexLength? c with
  | some s, _, _ => some (.inl (.set s))
  | _, some d, _ => some (.inl (.literal d))
  | _, _, some n => some (.inr (.hexStart n))
  | none, none, none =>
    if c == 'p' then some (.inr (.property false))
    else if c == 'P' then some (.inr (.property true))
    else if isEscapable c then some (.inl (.literal c))
    else none

/-- What a character does: it ends a token or leads further into an escape. -/
def step : Escape → Char → Option (Token ⊕ Escape)
  | .outside, c => if c == '\\' then some (.inr .letter) else some (.inl (.raw c))
  | .letter, c => afterBackslash c
  | .hexStart n, c =>
    if c == '\x7b' then some (.inr (.braced none))
    else (pushHex 0 c).map fun v => .inr (.hex (n - 1) v)
  | .hex left v, c => do
    let v ← pushHex v c
    if left ≤ 1 then return .inl (.literal (← ofCode? v)) else return .inr (.hex (left - 1) v)
  | .braced v, c =>
    if c == '\x7d' then do return .inl (.literal (← ofCode? (← v)))
    else (pushHex (v.getD 0) c).map fun v => .inr (.braced (some v))
  | .property negated, c =>
    if c == '\x7b' then some (.inr (.propertyName negated []))
    else if c == '\\' then none
    else (Unicode.ofName? [c]).map fun s => .inl (.set (s.negateIf negated))
  | .propertyName negated name, c =>
    if c == '\x7d' then
      (property? name.reverse).map fun s => .inl (.set (s.negateIf negated))
    else some (.inr (.propertyName negated (c :: name)))

/-- The tokens of the characters from a place within an escape on. -/
def readFrom : Escape → List Char → Option (List Token)
  | .outside, [] => some []
  | _, [] => none
  | e, c :: rest =>
    match step e c with
    | some (.inl t) => (readFrom .outside rest).map (t :: ·)
    | some (.inr e) => readFrom e rest
    | none => none

/-- The tokens of a regular expression, if all its escapes are known. -/
def read? (s : List Char) : Option (List Token) := readFrom .outside s

end Token

end PackQuery.Regex
