import PackQuery.Yaml.Token.Tag

/-!
# Directives

A line that starts with a percent sign declares something about the document below: the version
of YAML, as two numbers, or what a handle stands for in tags. A comment may follow.
-/

namespace PackQuery.Yaml

/-- The number of at most nine digits that some characters start with, and what follows it. -/
def shortNumber? (s : List Char) : Option (Nat × List Char) :=
  let digits := s.takeWhile Char.isDigit
  if digits.length ≤ 9 then
    (Numeral.natural? 10 digits).map fun n => (n, s.drop digits.length)
  else none

/-- The version that some characters start with, and what follows it. -/
def version? (s : List Char) : Option (Token × List Char) := do
  let (major, s) ← shortNumber? s
  match s with
  | '.' :: s =>
    let (minor, s) ← shortNumber? s
    return (.version major minor, s)
  | _ => none

/-- The handle with its meaning that some characters start with, and what follows them. -/
def declaration? (s : List Char) : Option (Token × List Char) := do
  let (name, s) := if s.head? == some '!' then handle s else ([], s)
  if s.head?.any isBlank then
    let (meaning, s) ← someOctets? true (s.dropWhile isBlank)
    if !name.isEmpty && isBlankAhead s then
      return (.handle (String.ofList name) meaning, s)
    else none
  else none

/-- The rest of a line behind the comment in front of it. -/
def dropComment (s : List Char) : List Char :=
  match s.dropWhile isBlank with
  | '#' :: s => s.dropWhile (!isBreak ·)
  | s => s

/-- The directive at a place and the place behind its line end. -/
def directive? (c : Cursor) : Option (Token × Cursor) := do
  let s := c.rest.drop 1
  let name := String.ofList (s.takeWhile isNameChar)
  let s := s.dropWhile isNameChar
  let read? ← if name == "YAML" then some version?
    else if name == "TAG" then some declaration?
    else none
  if isBlankAhead s then
    let (token, left) ← read? (s.dropWhile isBlank)
    match dropComment left with
    | [] => return (token, c.upTo [])
    | x :: below => if isBreak x then return (token, c.nextLine below) else none
  else none

end PackQuery.Yaml
