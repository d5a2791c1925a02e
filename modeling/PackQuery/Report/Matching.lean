import PackQuery.Json.Printer
import PackQuery.Settings.Basic
import PackQuery.Vendor.Registry
import PackQuery.Version.Selection

/-!
# Reports on versions, wildcards and vendors

A report answers a question. It shows as text or as JSON, and it says whether the answer is yes;
an answer that is neither yes nor no counts as yes.

The answers to single questions: which of two versions is higher, whether a version lies in a
range, which version a filter selects, whether two texts agree, and which vendor a text means.
-/

namespace PackQuery

/-- An answer and its two forms. -/
structure Report where
  /-- The form for people. -/
  text : String
  /-- The form for programs. -/
  json : Json
  /-- Whether the answer is yes. -/
  holds : Bool := true

namespace Report

/-- A report in a format. -/
def render (r : Report) : OutputFormat → String
  | .text => r.text
  | .json => r.json.pretty

/-- A truth value as text. -/
def yesNo (b : Bool) : String := if b then "yes" else "no"

/-- A label, filled up with blanks to a common width, and a value. -/
def row (label value : String) : String :=
  label ++ String.ofList (List.replicate (12 - label.length) ' ') ++ " " ++ value

/-! ## Questions -/

/-- The sign of the order of two versions. -/
def relation (rank : Int) : String :=
  if rank < 0 then "<" else if rank = 0 then "==" else ">"

/-- Which of two versions is higher. -/
def comparison (a b : String) (sensitive : Bool) : Report :=
  let rank := Version.compare sensitive a b
  { text := a ++ " " ++ relation rank ++ " " ++ b ++ " (" ++ toString rank ++ ")"
    json := .record [("first", .text a), ("second", .text b), ("case_sensitive", .bool sensitive),
      ("result", .int rank)] }

/-- Where a version lies, seen from a range. -/
def position (rank : Int) : String :=
  if rank < 0 then "below" else if rank = 0 then "inside" else "above"

/-- Whether a version lies in a range. -/
def range (version range : String) (compatible : Bool) : Report :=
  let rank := Version.Range.locate compatible version range
  { text := version ++ " is " ++ position rank ++ " range '" ++ range ++ "' (" ++
      toString rank ++ ")"
    json := .record [("version", .text version), ("range", .text range),
      ("compatible", .bool compatible), ("result", .int rank), ("in_range", .bool (rank == 0))]
    holds := rank == 0 }

/-- Which version a filter selects. -/
def selection (filter : String) (candidates : List String) (compatible : Bool) : Report :=
  let selected := Version.Selection.select compatible filter candidates
  { text := match selected with
      | some version => version
      | none => "no version satisfies '" ++ filter ++ "' among " ++
          toString candidates.length ++ " candidates"
    json := .record [("filter", .text filter),
      ("mode", .text (Version.MatchMode.ofFilter filter).key), ("compatible", .bool compatible),
      ("candidates", .texts candidates), ("selected", .optionalText selected)]
    holds := selected.isSome }

/-- Whether two texts agree as wildcard patterns. -/
def wildcard (a b : String) : Report :=
  let agree := Wildcard.agree a b
  { text := a ++ " ~ " ++ b ++ ": " ++ yesNo agree
    json := .record [("first", .text a), ("second", .text b), ("matches", .bool agree)]
    holds := agree }

/-- All that is known of a vendor text, as JSON. -/
def vendorJson (r : Vendor.Registry) (vendor : String) : Json :=
  .record [("input", .text vendor), ("canonical_name", .text (r.canonicalName vendor)),
    ("full", .text (r.full vendor)), ("is_canonical", .bool (r.isCanonical vendor)),
    ("aliases", .texts (r.aliasesOf (r.canonicalName vendor)))]

/-- The display name for a vendor text. -/
def canonicalVendor (r : Vendor.Registry) (vendor : String) : Report :=
  { text := r.canonicalName vendor, json := vendorJson r vendor }

/-- The display name and the id for a vendor text. -/
def fullVendor (r : Vendor.Registry) (vendor : String) : Report :=
  { text := r.full vendor, json := vendorJson r vendor }

/-- Whether two vendor texts denote the same vendor. -/
def vendorMatch (r : Vendor.Registry) (a b : String) : Report :=
  let same := r.same a b
  { text := a ++ " (" ++ r.full a ++ ") ~ " ++ b ++ " (" ++ r.full b ++ "): " ++ yesNo same
    json := .record [("first", .text a), ("second", .text b), ("first_full", .text (r.full a)),
      ("second_full", .text (r.full b)), ("matches", .bool same)]
    holds := same }

end Report

end PackQuery
