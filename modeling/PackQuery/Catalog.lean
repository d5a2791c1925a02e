import PackQuery.Attributes.Identity
import PackQuery.Version.Selection

/-!
# Catalogs

A catalog lists the entries that a tool knows. A query gives entries together with their places,
in catalog order.
-/

namespace PackQuery

/-- The entries of a catalog, in order. -/
structure Catalog where
  entries : List AttributeSet := []
deriving DecidableEq, Inhabited

namespace Catalog

/-- An entry and its place, counted from 0. -/
abbrev Placed := AttributeSet × Nat

/-- The entries with their places. -/
def placed (c : Catalog) : List Placed := c.entries.zipIdx

/-- The catalog with one more entry at its end. -/
def push (c : Catalog) (entry : AttributeSet) : Catalog := ⟨c.entries ++ [entry]⟩

/-- The entries that pass a test. -/
def select (c : Catalog) (test : AttributeSet → Bool) : List Placed :=
  c.placed.filter fun p => test p.1

/-- The entries with all attributes that are required. -/
def matching (c : Catalog) (required : AttributeSet) : List Placed :=
  c.select fun entry => entry.satisfies Vendor.Registry.builtin required

/-- Whether an entry is a component that passes a filter. -/
def isComponent (filter entry : AttributeSet) : Bool :=
  !entry.isApi && entry.contains Key.classification && entry.passesComponent filter

/-- The components that pass a filter. -/
def components (c : Catalog) (filter : AttributeSet) : List Placed :=
  c.select (isComponent filter)

/-- The devices that a request asks for. -/
def devices (c : Catalog) (request : AttributeSet) : List Placed :=
  c.select fun entry => entry.contains Key.deviceName &&
    request.passesDeviceAttributes Vendor.Registry.builtin entry

/-- The interfaces that a request asks for. -/
def apis (c : Catalog) (request : AttributeSet) : List Placed :=
  c.select fun entry => entry.isApi && entry.passesApi request

/-- The best component: among those that pass the filter without its component version, the first
one with the version that the version filter selects. -/
def resolve (c : Catalog) (filter : AttributeSet) (versionFilter : String) (compatible : Bool) :
    Option Placed := do
  let candidates := c.components (filter.remove Key.componentVersion).1
  let selected ← Version.Selection.select compatible versionFilter
    (candidates.map fun p => p.1.version)
  candidates.find? fun p => p.1.version = selected

/-- Add an entry to the list of its id; a new id comes last. -/
def addToIndex (id : String) (p : Placed) : List (String × List Placed) →
    List (String × List Placed)
  | [] => [(id, [p])]
  | (id', ps) :: rest =>
    if id = id' then (id', ps ++ [p]) :: rest else (id', ps) :: addToIndex id p rest

/-- The entries by component id, the ids in the order in which they first occur. -/
def indexById (vendors : Vendor.Registry) (withVersion : Bool) (c : Catalog) :
    List (String × List Placed) :=
  c.placed.foldl (fun index p => addToIndex (p.1.componentId vendors withVersion) p index) []

end Catalog

end PackQuery
