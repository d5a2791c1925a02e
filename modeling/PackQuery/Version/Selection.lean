import PackQuery.Version.Basic

/-!
# Ranges and the selection of a version

A range reads `min:max`, and either bound may be missing. `x:x` admits what is equal to `x`, and
a bound `x` alone has no maximum. A maximum with a trailing dash has the empty release, which is
below the version itself.

A filter picks one of the candidate versions. Without `@` it is a range, and the first of the
highest candidates inside it is selected. With `@` it names a selector: `@1.2.3` takes the first
candidate equal to the version, `@>=1.2.3` and everything else take the last of the highest
candidates from the baseline on.
-/

namespace PackQuery.Version

/-! ## Ranges -/

namespace Range

/-- The lower bound of a range text, empty if there is none. -/
def lower (range : String) : String := Text.before ':' range

/-- The upper bound of a range text, empty if there is none. -/
def upper (range : String) : String := Text.afterLast ':' range

/-- Where a version lies: `0` inside the range, else the scaled order against the bound that it
violates. With `compatible`, a range without an upper bound ends before the next major version. -/
def locate (compatible : Bool) (version range : String) : Int :=
  if version = range then 0
  else
    let low := lower range
    let high := upper range
    let fromLow := if low = "" then 0 else compare true version low
    if low ≠ "" ∧ (fromLow < 0 ∨ low = high) then fromLow
    else if high ≠ "" then max 0 (compare true version high)
    else if compatible ∧ 2 < fromLow then fromLow
    else 0

/-- Whether a version lies inside a range. -/
def admits (compatible : Bool) (range version : String) : Bool :=
  locate compatible version range == 0

end Range

/-! ## Modes -/

/-- What a filter asks of a version. -/
inductive MatchMode where
  /-- The consumer prescribes the version. -/
  | enforced
  /-- Exactly the given version. -/
  | fixed
  /-- The latest one. -/
  | latest
  /-- Any version will do. -/
  | any
  /-- The version must not be used. -/
  | excluded
  /-- The given version or a later one. -/
  | higherOrEqual
deriving DecidableEq, Repr, Inhabited

namespace MatchMode

/-- All modes, in the order of their strictness. -/
def all : List MatchMode := [enforced, fixed, latest, any, excluded, higherOrEqual]

/-- The key of a mode in data files. -/
def key : MatchMode → String
  | enforced => "enforced"
  | fixed => "fixed"
  | latest => "latest"
  | any => "any"
  | excluded => "excluded"
  | higherOrEqual => "higher-or-equal"

/-- The mode of a key. -/
def ofKey? (s : String) : Option MatchMode := all.find? (·.key == s)

/-- The name of a mode in a pack description. Any version has no name, and a lower bound is
written like the latest version. -/
def name : MatchMode → String
  | enforced => "enforced"
  | fixed => "fixed"
  | latest | higherOrEqual => "latest"
  | any => ""
  | excluded => "excluded"

/-- The mode of a name; an unknown name asks for the latest version. -/
def ofName (s : String) : MatchMode :=
  if s = "fixed" then fixed
  else if s = "enforced" then enforced
  else if s = "excluded" then excluded
  else latest

/-- The mode that the selector behind the last `@` asks for. A selector that starts with a digit
is fixed, one with `>=` before its first digit is a lower bound, any other asks for the latest
version. -/
def ofFilter (filter : String) : MatchMode :=
  let selector := (Text.afterLast '@' filter).toList
  if selector.any Char.isDigit then
    match selector.takeWhile (!·.isDigit) with
    | [] => fixed
    | ['>', '='] => higherOrEqual
    | _ => latest
  else latest

end MatchMode

namespace Selection

/-- The baseline of a selector: the text behind the first `@`, and in a lower bound behind the
first `>=` as well. -/
def baseline (filter : String) : String :=
  let selector := Text.afterFirst "@" filter
  if MatchMode.ofFilter filter = .higherOrEqual then Text.afterFirst ">=" selector else selector

/-- The first of the highest candidates, starting from a best one. -/
def firstHighest (best : String) : List String → String
  | [] => best
  | c :: rest => firstHighest (if 0 < compare true c best then c else best) rest

/-- The first of the highest candidates inside a range. -/
def highestInRange (compatible : Bool) (range : String) (candidates : List String) :
    Option String :=
  match candidates.filter (Range.admits compatible range) with
  | [] => none
  | c :: rest => some (firstHighest c rest)

/-- The last of the highest candidates that are not below the baseline. Each candidate that is
taken becomes the baseline of those after it. -/
def highestFrom (baseline : String) (best : Option String) : List String → Option String
  | [] => best
  | c :: rest =>
    if 0 ≤ compare false c baseline then highestFrom c (some c) rest
    else highestFrom baseline best rest

/-- The candidate that a filter selects. -/
def select (compatible : Bool) (filter : String) (candidates : List String) : Option String :=
  if filter.toList.contains '@' then
    match MatchMode.ofFilter filter with
    | .fixed => candidates.find? fun c => compare false c (baseline filter) == 0
    | _ => highestFrom (baseline filter) none candidates
  else highestInRange compatible filter candidates

end Selection

end PackQuery.Version
