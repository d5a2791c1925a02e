import PackQuery.Attributes.Assignment
import PackQuery.Report.Matching

/-!
# Reports on attribute sets

All identifiers of an entry, and all ways in which an entry can match a request.
-/

namespace PackQuery.Report

/-- The lines of some labelled values. -/
def table (rows : List (String × String)) : String :=
  String.join (rows.map fun (label, value) => row label value ++ "\n")

/-- All identifiers of an entry. The text leaves out those that are empty. -/
def identifiers (vendors : Vendor.Registry) (s : AttributeSet) : Report :=
  let component := s.componentId vendors true
  let unique := s.uniqueId vendors true
  let aggregate := s.aggregateId vendors
  let api := s.apiId true
  let taxonomy := s.taxonomyId
  let bundle := s.bundleId vendors true
  let pack := if s.get Key.name = "" then "" else s.packId true
  let display := s.displayName true { variant := true, version := true } ':'
  let header := s.preIncludeFile
  let vendor := s.vendorName vendors
  let version := s.version
  { text := Text.trimEnd (table ([("component", component), ("unique", unique),
      ("aggregate", aggregate), ("api", api), ("taxonomy", taxonomy), ("bundle", bundle),
      ("package", pack), ("display", display), ("pre-include", header), ("vendor", vendor),
      ("version", version)].filter fun r => r.2 ≠ ""))
    json := .record [("attributes", s.toJson), ("component_id", .text component),
      ("component_unique_id", .text unique), ("component_aggregate_id", .text aggregate),
      ("api_id", .text api), ("taxonomy_id", .text taxonomy), ("bundle_id", .text bundle),
      ("package_id", .text pack), ("display_name", .text display),
      ("pre_include_file", .text header), ("vendor", .text vendor), ("version", .text version)] }

/-- All ways in which an entry can match a request; the answer is yes if it does in any. -/
def attributeMatch (vendors : Vendor.Registry) (entry request : AttributeSet) : Report :=
  let compare := entry.satisfies vendors request
  let equal := entry.sameAttributes request
  let component := entry.passesComponent request
  let api := entry.passesApi request
  let deviceAttributes := request.passesDeviceAttributes vendors entry
  let device := request.passesDevice vendors entry
  { text := Text.trimEnd ("entry:   " ++ entry.elementText ++ "\nrequest: " ++
      request.elementText ++ "\n" ++ table [("compare", yesNo compare), ("equal", yesNo equal),
        ("component", yesNo component), ("api", yesNo api),
        ("device-attrs", yesNo deviceAttributes), ("device", yesNo device)])
    json := .record [("entry", entry.toJson), ("request", request.toJson),
      ("compare_attributes", .bool compare), ("equal_attributes", .bool equal),
      ("component_attributes", .bool component), ("api_attributes", .bool api),
      ("device_attributes", .bool deviceAttributes), ("device", .bool device)]
    holds := compare || equal || component || api || deviceAttributes || device }

end PackQuery.Report
