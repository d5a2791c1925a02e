import PackQuery.Text.Cut
import PackQuery.Text.Escape
import PackQuery.Text.Numeral

/-!
# Strict versions

A strict version reads `major.minor.patch[-pre][+build]` and follows Semantic Versioning 2.0: the
numbers are below 2⁶⁴ and have no leading zeros, and the pre-release and the build metadata are
identifiers of ASCII letters, digits and dashes between dots. A text that is no strict version
has the first fault found from left to right.
-/

namespace PackQuery

/-- A version that follows the strict grammar. -/
structure StrictVersion where
  major : Nat
  minor : Nat
  patch : Nat
  /-- The pre-release identifiers, empty if there are none. -/
  pre : String
  /-- The build metadata, empty if there is none. -/
  build : String
deriving DecidableEq, Repr

namespace StrictVersion

/-- The parts of a strict version. -/
inductive Part where
  | major | minor | patch | pre | build
deriving DecidableEq, Repr

/-- How messages call a part. -/
def Part.name : Part → String
  | .major => "major version number"
  | .minor => "minor version number"
  | .patch => "patch version number"
  | .pre => "pre-release identifier"
  | .build => "build metadata"

/-- Why a text is no strict version. -/
inductive Fault where
  | empty
  | endsIn (part : Part)
  | unexpectedIn (part : Part) (c : Char)
  | unexpectedAfter (part : Part) (c : Char)
  | leadingZero (part : Part)
  | tooLarge (part : Part)
  | emptySegment (part : Part)
deriving DecidableEq, Repr

/-- The message of a fault. -/
def Fault.message : Fault → String
  | .empty => "empty string, expected a semver version"
  | .endsIn p => "unexpected end of input while parsing " ++ p.name
  | .unexpectedIn p c =>
    "unexpected character " ++ Text.quotedChar c ++ " while parsing " ++ p.name
  | .unexpectedAfter p c => "unexpected character " ++ Text.quotedChar c ++ " after " ++ p.name
  | .leadingZero p => "invalid leading zero in " ++ p.name
  | .tooLarge p => "value of " ++ p.name ++ " exceeds u64::MAX"
  | .emptySegment p => "empty identifier segment in " ++ p.name

/-- A number and what follows it. -/
def number (part : Part) (s : List Char) : Except Fault (Nat × List Char) :=
  let digits := s.takeWhile Char.isDigit
  let rest := s.dropWhile Char.isDigit
  match digits, rest with
  | [], [] => .error (.endsIn part)
  | [], c :: _ => .error (.unexpectedIn part c)
  | '0' :: _ :: _, _ => .error (.leadingZero part)
  | _, _ =>
    match Numeral.decimal64? digits with
    | some n => .ok (n, rest)
    | none => .error (.tooLarge part)

/-- What follows the dot behind a number. -/
def dot (part : Part) : List Char → Except Fault (List Char)
  | [] => .error (.endsIn part)
  | '.' :: s => .ok s
  | c :: _ => .error (.unexpectedAfter part c)

/-- Whether a character may stand in an identifier. -/
def isIdentifierChar (c : Char) : Bool := c.isAlphanum || c == '-'

/-- Whether an identifier is a number with a leading zero. -/
def hasLeadingZero : List Char → Bool
  | '0' :: c :: rest => (c :: rest).all Char.isDigit
  | _ => false

/-- The first fault of some identifiers. Only in a pre-release are leading zeros forbidden. -/
def checkIdentifiers (part : Part) : List (List Char) → Except Fault Unit
  | [] => .ok ()
  | [] :: _ => .error (.emptySegment part)
  | s :: rest =>
    if part == .pre && hasLeadingZero s then .error (.leadingZero part)
    else checkIdentifiers part rest

/-- Identifiers between dots, of which there is at least one, and what follows them. -/
def identifiers (part : Part) (s : List Char) : Except Fault (String × List Char) := do
  let text := s.takeWhile fun c => isIdentifierChar c || c == '.'
  checkIdentifiers part (Chars.splitOn '.' text)
  return (String.ofList text, s.dropWhile fun c => isIdentifierChar c || c == '.')

/-- The identifiers behind a mark, if the mark is there. -/
def optional (mark : Char) (part : Part) (s : List Char) :
    Except Fault (Option String × List Char) :=
  match s with
  | c :: rest =>
    if c == mark then (identifiers part rest).map fun (text, rest) => (some text, rest)
    else .ok (none, s)
  | [] => .ok (none, [])

/-- The strict version of a text, or its first fault. -/
def read (s : String) : Except Fault StrictVersion :=
  if s.isEmpty then .error .empty
  else do
    let (major, rest) ← number .major s.toList
    let (minor, rest) ← number .minor (← dot .major rest)
    let (patch, rest) ← number .patch (← dot .minor rest)
    let (pre, rest) ← optional '-' .pre rest
    let (build, rest) ← optional '+' .build rest
    match rest with
    | [] => return ⟨major, minor, patch, pre.getD "", build.getD ""⟩
    | c :: _ =>
      let last : Part := if build.isSome then .build else if pre.isSome then .pre else .patch
      .error (.unexpectedAfter last c)

end StrictVersion

end PackQuery
