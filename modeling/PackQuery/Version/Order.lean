import PackQuery.Version.Basic

/-!
# Orders on version texts

A `VersionOrder` sorts version texts, or texts of a name, a delimiter and a version: by the name
first. `VersionKey.compare` is a total order in which only the same text is equal, as sorted
containers need it; versions that differ in spelling only are ordered by their texts.
-/

namespace PackQuery

/-- How version texts are ordered. -/
structure VersionOrder where
  /-- What stands between a name and its version; without it a text is a version only. -/
  delimiter : Option Char := none
  /-- Whether the case of letters in segments and names counts. -/
  sensitive : Bool := false
deriving DecidableEq, Repr

namespace VersionOrder

/-- The order of plain versions. -/
def plain : VersionOrder := { sensitive := true }

/-- The order of names with versions behind a delimiter. -/
def named (delimiter : Char) : VersionOrder := { delimiter := some delimiter, sensitive := true }

/-- The scaled order of two texts. Names that differ are `±1` apart. -/
def compare (o : VersionOrder) (a b : String) : Int :=
  match o.delimiter with
  | none => Version.compare o.sensitive a b
  | some d =>
    match NaturalOrder.compareThenLength o.sensitive (Text.before d a) (Text.before d b) with
    | .eq => Version.compare o.sensitive (Text.afterLast d a) (Text.afterLast d b)
    | names => Version.scaled 1 names

/-- The order of two texts without its rank. -/
def ordering (o : VersionOrder) (a b : String) : Ordering := Ord.compare (o.compare a b) 0

/-- The texts in order; those that compare equal keep their places among themselves. -/
def sort (o : VersionOrder) (texts : List String) : List String :=
  texts.mergeSort fun a b => o.compare a b ≤ 0

end VersionOrder

namespace VersionKey

/-- The order of versions, and of texts where versions are equal. -/
def compare (a b : String) : Ordering :=
  (Ord.compare (Version.compare true a b) 0).then (Ord.compare a b)

/-- Put a text into a list that increases by `VersionKey.compare`, unless it is there. -/
def insert (s : String) : List String → List String
  | [] => [s]
  | t :: rest =>
    match compare s t with
    | .lt => s :: t :: rest
    | .eq => t :: rest
    | .gt => t :: insert s rest

/-- The distinct texts, increasing. -/
def sortedSet (texts : List String) : List String :=
  texts.foldl (fun set s => insert s set) []

end VersionKey

end PackQuery
