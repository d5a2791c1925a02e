import PackQuery.Failure
import PackQuery.Text.Cut
import PackQuery.Vendor.Builtin
import PackQuery.Wildcard.Basic

/-!
# Vendor registries

A vendor is written by name, by name and id (`NXP:11`), or by id alone (`:11`). Names change,
companies are taken over, and one vendor has several spellings; a registry tells which vendor a
text means.

The id behind the last colon counts, or else the id of the name before the first one. An id that
is retired stands for its successor, which is looked up once. `Registry.full` writes a vendor as
the display name of its id and the id; `Registry.canonicalName` gives a display name for every
text; `Registry.same` tells whether two texts denote one vendor, either of them possibly a
wildcard pattern.
-/

namespace PackQuery.Vendor

/-- The name part of a vendor text. -/
def namePart (vendor : String) : String := Text.before ':' vendor

/-- The id part of a vendor text, empty if there is none. -/
def idPart (vendor : String) : String := Text.afterLast ':' vendor

/-- Whether a text is a vendor id: one or more ASCII digits. -/
def isId (s : String) : Bool := !s.isEmpty && s.toList.all Char.isDigit

/-- Refuse a text that is no vendor id. -/
def checkId (s : String) : Except Failure Unit :=
  if isId s then .ok () else .error (.vendor "vendor id" (.invalidId s))

/-- What is known of vendors. -/
structure Registry where
  /-- The ids of vendor names. -/
  ids : Dict String := .empty
  /-- The display names of ids. -/
  names : Dict String := .empty
  /-- The current ids of retired ids. -/
  successors : Dict String := .empty
deriving DecidableEq, Inhabited

namespace Registry

/-- The registry that knows no vendor. -/
def empty : Registry := {}

/-- The registry of the built-in tables. -/
def builtin : Registry := ⟨builtinIds, builtinNames, builtinSuccessors⟩

/-! ## Changing -/

/-- Give a vendor name an id. -/
def addAlias (r : Registry) (name id : String) : Registry :=
  { r with ids := r.ids.insert name id }

/-- Give an id its display name. -/
def setName (r : Registry) (id name : String) : Registry :=
  { r with names := r.names.insert id name }

/-- Retire an id in favour of another. -/
def addSuccessor (r : Registry) (old new : String) : Registry :=
  { r with successors := r.successors.insert old new }

/-! ## Looking up -/

/-- The id of a vendor name. -/
def idOf? (r : Registry) (name : String) : Option String := r.ids.get? name

/-- The display name of an id. -/
def nameOf? (r : Registry) (id : String) : Option String := r.names.get? id

/-- The id that an id stands for now; the successor of a successor is not looked up. -/
def currentId (r : Registry) (id : String) : String := (r.successors.get? id).getD id

/-- The names with the same id as a name, in order. -/
def aliasesOf (r : Registry) (name : String) : List String :=
  match r.idOf? name with
  | some id => (r.ids.filter fun _ id' => id' = id).keys
  | none => []

/-- Whether a name is the display name of its own id. -/
def isCanonical (r : Registry) (name : String) : Bool :=
  ((r.idOf? name).bind r.nameOf?) = some name

/-- The number of vendor names. -/
def size (r : Registry) : Nat := r.ids.size

/-! ## Vendor texts -/

/-- The display name for a vendor text: that of its id, else that of the id of its name, else the
name itself. -/
def canonicalName (r : Registry) (vendor : String) : String :=
  let byId := if idPart vendor = "" then none else r.nameOf? (idPart vendor)
  let byName := (r.idOf? (namePart vendor)).bind r.nameOf?
  (byId.or byName).getD (namePart vendor)

/-- The current id that a vendor text denotes, if it has an id or its name is known. -/
def idFor? (r : Registry) (vendor : String) : Option String :=
  if idPart vendor = "" then r.idOf? (namePart vendor) else some (r.currentId (idPart vendor))

/-- The display name of the id that a vendor text denotes. -/
def displayName? (r : Registry) (vendor : String) : Option String :=
  (r.idFor? vendor).bind r.nameOf?

/-- A vendor text as display name and id; a text without display name stays as it is. -/
def full (r : Registry) (vendor : String) : String :=
  match r.idFor? vendor with
  | some id =>
    match r.nameOf? id with
    | some name => name ++ ":" ++ id
    | none => vendor
  | none => vendor

/-- Whether two ids stand for one vendor. -/
def sameId (r : Registry) (a b : String) : Bool :=
  a = b || r.currentId a = r.currentId b

/-- Whether two vendor texts denote the same vendor: they are the same text, or their ids agree,
or the names in their full forms do, as wildcard patterns. -/
def same (r : Registry) (a b : String) : Bool :=
  if a = b then true
  else if idPart a ≠ "" ∧ idPart b ≠ "" ∧ r.sameId (idPart a) (idPart b) then true
  else Wildcard.agree (namePart (r.full a)) (namePart (r.full b))

end Registry

end PackQuery.Vendor
