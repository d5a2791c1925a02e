import PackQuery.Json.Basic
import PackQuery.Text.Escape

/-!
# Writing JSON

Values are written over several lines, two blanks to a level, or without any blanks. A string
escapes the quote, the backslash and control characters below the blank, and nothing else.
-/

namespace PackQuery.Json

/-- A hexadecimal digit in lower case. -/
def hexDigit (n : Nat) : Char := Nat.digitChar n

/-- A character of a string literal. -/
def literalChar (c : Char) : List Char :=
  if c == '"' then ['\\', '"']
  else if c == '\\' then ['\\', '\\']
  else if c == '\n' then ['\\', 'n']
  else if c == '\r' then ['\\', 'r']
  else if c == '\t' then ['\\', 't']
  else if c == '\x08' then ['\\', 'b']
  else if c == '\x0c' then ['\\', 'f']
  else if c.toNat < 32 then
    ['\\', 'u', '0', '0', hexDigit (c.toNat / 16), hexDigit (c.toNat % 16)]
  else [c]

/-- A string literal. What is no text is written as half of a surrogate pair. -/
def literal : Option String → List Char
  | some s => '"' :: s.toList.flatMap literalChar ++ ['"']
  | none => "\"\\ud800\"".toList

/-- How values are laid out: what separates items, for a level, and what follows a colon. -/
structure Layout where
  /-- What stands before an item or a closing bracket at a level. -/
  newline : Nat → List Char
  /-- What stands between a key and its value. -/
  colon : List Char

/-- One item to a line, two blanks to a level. -/
def Layout.lines : Layout := ⟨fun level => '\n' :: List.replicate (2 * level) ' ', [':', ' ']⟩

/-- No blanks at all. -/
def Layout.compact : Layout := ⟨fun _ => [], [':']⟩

mutual

/-- A value at a level. -/
def write (o : Layout) (level : Nat) : Json → List Char
  | null => "null".toList
  | bool b => (if b then "true" else "false").toList
  | number n => n.toList
  | string s => literal s
  | array [] => ['[', ']']
  | array (v :: vs) =>
    '[' :: (o.newline (level + 1) ++ write o (level + 1) v) ++ writeValues o (level + 1) vs ++
      o.newline level ++ [']']
  | object [] => ['\x7b', '\x7d']
  | object ((k, v) :: ms) =>
    '\x7b' :: (o.newline (level + 1) ++ literal k ++ o.colon ++ write o (level + 1) v) ++
      writeMembers o (level + 1) ms ++ o.newline level ++ ['\x7d']

/-- The values behind the first one. -/
def writeValues (o : Layout) (level : Nat) : List Json → List Char
  | [] => []
  | v :: vs => ',' :: (o.newline level ++ write o level v) ++ writeValues o level vs

/-- The members behind the first one. -/
def writeMembers (o : Layout) (level : Nat) : List (Option String × Json) → List Char
  | [] => []
  | (k, v) :: ms =>
    ',' :: (o.newline level ++ literal k ++ o.colon ++ write o level v) ++ writeMembers o level ms

end

/-- The text of a value over several lines. -/
def pretty (v : Json) : String := String.ofList (v.write .lines 0)

/-- The text of a value on one line, without blanks. -/
def compact (v : Json) : String := String.ofList (v.write .compact 0)

end PackQuery.Json
