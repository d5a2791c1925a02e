import PackQuery.Text.Cut
import PackQuery.Text.Numeral
import PackQuery.Text.NaturalOrder

/-!
# Versions of software packs

A version reads `major.minor.patch-release+metadata`, and every text is one: build metadata is
dropped, a missing segment is `0`, and a release that follows the last digit without a dash is
recognised too (`1.2.3b`).

**Scaled order.** Comparing two versions tells the rank of the segment in which they first
differ: `±3` for the major one, `±2` for the minor one, `±1` for the patch or the release. A
version without a release is above all of its releases. A release is itself read as a version, a
piece between dashes at a time, always without regard to case.

**Termination.** A release that is read from a text is shorter than the text
(`release_length_lt`), so the chain of releases ends.
-/

namespace PackQuery

/-- The parts of a version that count in a comparison. -/
structure Version where
  major : List Char
  minor : List Char
  patch : List Char
  /-- The release, without its dash; a trailing dash gives the empty release. -/
  release : Option (List Char)
deriving DecidableEq, Repr

namespace Version

/-! ## Reading -/

/-- The characters without build metadata. -/
def withoutMetadata (s : List Char) : List Char := Chars.before '+' s

/-- Whether a character may stand in a release that has no dash in front. -/
def isGlued (c : Char) : Bool := c != '.' && !c.isDigit

/-- The cut of a release that follows a digit directly: the text ends in characters other than
digits and dots, and a digit stands before them. -/
def splitGlued (s : List Char) : List Char × Option (List Char) :=
  let tail := s.reverse.takeWhile isGlued
  match s.reverse.dropWhile isGlued with
  | d :: rest =>
    if d.isDigit && !tail.isEmpty then ((d :: rest).reverse, some tail.reverse) else (s, none)
  | [] => (s, none)

/-- The cut between the segments and the release: at the first dash, else before a glued
release. -/
def splitRelease (s : List Char) : List Char × Option (List Char) :=
  match Chars.after? '-' s with
  | some release => (Chars.before '-' s, some release)
  | none => splitGlued s

/-- The next segment and what follows its dot; at the end the segment is `0`. -/
def nextSegment : List Char → List Char × List Char
  | [] => (['0'], [])
  | s => (Chars.before '.' s, (Chars.after? '.' s).getD [])

/-- The version of a text without build metadata. -/
def ofChars (s : List Char) : Version :=
  let (core, release) := splitRelease s
  let (major, rest) := nextSegment core
  let (minor, rest) := nextSegment rest
  let (patch, _) := nextSegment rest
  ⟨major, minor, patch, release⟩

/-- The version of a text. -/
def parse (s : String) : Version := ofChars (withoutMetadata s.toList)

/-! ## Releases are shorter -/

theorem length_after?_lt {d : Char} {s t : List Char} (h : Chars.after? d s = some t) :
    t.length < s.length := by
  have hle := (List.dropWhile_sublist (l := s) (· != d)).length_le
  unfold Chars.after? at h
  split at h
  · cases h
  · rename_i hdrop
    cases h
    simp only [hdrop, List.length_cons] at hle
    exact hle

theorem length_splitGlued_lt {s t : List Char} (h : (splitGlued s).2 = some t) :
    t.length < s.length := by
  have hsum : (s.reverse.takeWhile isGlued).length + (s.reverse.dropWhile isGlued).length =
      s.length := by
    rw [← List.length_append, List.takeWhile_append_dropWhile, List.length_reverse]
  unfold splitGlued at h
  split at h
  · rename_i hdrop
    dsimp only at h
    split at h
    · cases h
      simp only [hdrop, List.length_cons] at hsum
      rw [List.length_reverse]
      omega
    · cases h
  · cases h

/-- The release read from a text is shorter than the text. -/
theorem release_length_lt {s t : List Char} (h : (ofChars s).release = some t) :
    t.length < s.length := by
  change (splitRelease s).2 = some t at h
  unfold splitRelease at h
  split at h
  · rename_i hafter
    cases h
    exact length_after?_lt hafter
  · exact length_splitGlued_lt h

/-! ## The scaled order -/

/-- A signed rank: the rank itself for greater, its negative for less. -/
def scaled (rank : Int) : Ordering → Int
  | .lt => -rank
  | .eq => 0
  | .gt => rank

/-- The rank of the first segment that differs, signed. -/
def compareSegments (sensitive : Bool) (v w : Version) : Int :=
  match NaturalOrder.compareChars sensitive v.major w.major with
  | .eq =>
    match NaturalOrder.compareChars sensitive v.minor w.minor with
    | .eq => scaled 1 (NaturalOrder.compareChars sensitive v.patch w.patch)
    | o => scaled 2 o
  | o => scaled 3 o

/-- What is left of a chain of releases, counted in characters. -/
def remaining : Option (List Char) → Nat
  | none => 0
  | some s => s.length + 1

theorem remaining_release_lt (s : List Char) :
    remaining (ofChars s).release < remaining (some s) := by
  cases h : (ofChars s).release with
  | none => exact Nat.succ_pos _
  | some t => exact Nat.succ_lt_succ (release_length_lt h)

/-- The order of two releases. No release is above any; two releases are compared as versions,
and where their segments agree, by the releases within them. -/
def compareReleases : Option (List Char) → Option (List Char) → Int
  | none, none => 0
  | none, some _ => 1
  | some _, none => -1
  | some s, some t =>
    let rank := compareSegments false (ofChars s) (ofChars t)
    if rank = 0 then compareReleases (ofChars s).release (ofChars t).release
    else rank.sign
termination_by s => remaining s
decreasing_by exact remaining_release_lt s

/-- The scaled order of two versions. -/
def compareParsed (sensitive : Bool) (v w : Version) : Int :=
  let rank := compareSegments sensitive v w
  if rank = 0 then compareReleases v.release w.release else rank

/-- The scaled order of two version texts: a rank from `-3` to `3` whose sign is the order. The
same text needs no reading. -/
def compare (sensitive : Bool) (a b : String) : Int :=
  if a = b then 0 else compareParsed sensitive (parse a) (parse b)

/-! ## Neighbouring major versions -/

/-- The number in front of the first dot, `0` if that is no number below 2⁶⁴. -/
def majorNumber (s : String) : Nat :=
  (Numeral.decimal64? (Text.trimChars (Chars.before '.' s.toList))).getD 0

/-- The first version of the next major number, which is at most the greatest 64-bit number;
`exclusive` adds the trailing dash that keeps a range below it. -/
def ceiling (exclusive : Bool) (s : String) : String :=
  toString (min (majorNumber s + 1) (Numeral.limit64 - 1)) ++ ".0.0" ++
    if exclusive then "-" else ""

/-- The first version with the same major segment. -/
def floor (s : String) : String := Text.before '.' s ++ ".0.0"

/-- The text without build metadata. -/
def dropMetadata (s : String) : String := Text.before '+' s

end Version

end PackQuery
