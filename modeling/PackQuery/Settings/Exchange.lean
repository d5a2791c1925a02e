import PackQuery.Failure
import PackQuery.Json.Printer
import PackQuery.Json.Reader
import PackQuery.Settings.Basic
import PackQuery.Yaml.Printer
import PackQuery.Yaml.Reader

/-!
# Settings as text

Settings are a record with the fields `matching`, `vendors` and `output`, each of them a record of
its own. All fields are written, and all can be left out. They are written as YAML or as JSON, and
a settings file is YAML.

**Reading.** Fields that are not known do not count, and no field may occur twice. Of equal names in
a table the last one counts. In JSON, a record may also be a list of its fields in order. In YAML,
a section or a table with nothing in it is empty, but null is none; truth values must be plain;
names and ids are texts however they are written.
-/

namespace PackQuery

/-! ## JSON -/

/-- Settings as JSON. -/
def Settings.toJson (s : Settings) : Json :=
  .record [
    ("matching", .record [("case_sensitive", .bool s.matching.caseSensitive),
      ("compatible", .bool s.matching.compatible)]),
    ("vendors", .record [("use_builtins", .bool s.vendors.useBuiltins),
      ("aliases", .ofDict s.vendors.aliases), ("names", .ofDict s.vendors.names),
      ("legacy_ids", .ofDict s.vendors.legacyIds)]),
    ("output", .record [("format", .text s.output.format.name)])]

/-- The matching settings that JSON describes. -/
def MatchingSettings.ofJson? (v : Json) : Option MatchingSettings := do
  match ← v.fields? ["case_sensitive", "compatible"] with
  | [caseSensitive, compatible] =>
    return { caseSensitive := ← Json.fieldOr true Json.bool? caseSensitive
             compatible := ← Json.fieldOr false Json.bool? compatible }
  | _ => none

/-- The vendor settings that JSON describes. -/
def VendorSettings.ofJson? (v : Json) : Option VendorSettings := do
  match ← v.fields? ["use_builtins", "aliases", "names", "legacy_ids"] with
  | [useBuiltins, aliases, names, legacyIds] =>
    return { useBuiltins := ← Json.fieldOr true Json.bool? useBuiltins
             aliases := ← Json.fieldOr .empty Json.dict? aliases
             names := ← Json.fieldOr .empty Json.dict? names
             legacyIds := ← Json.fieldOr .empty Json.dict? legacyIds }
  | _ => none

/-- The output settings that JSON describes. -/
def OutputSettings.ofJson? (v : Json) : Option OutputSettings := do
  match ← v.fields? ["format"] with
  | [format] =>
    return { format := ← Json.fieldOr .text (fun v => v.text?.bind OutputFormat.ofName?) format }
  | _ => none

/-- The settings that JSON describes. -/
def Settings.ofJson? (v : Json) : Option Settings := do
  match ← v.fields? ["matching", "vendors", "output"] with
  | [matching, vendors, output] =>
    return { matching := ← Json.fieldOr {} MatchingSettings.ofJson? matching
             vendors := ← Json.fieldOr {} VendorSettings.ofJson? vendors
             output := ← Json.fieldOr {} OutputSettings.ofJson? output }
  | _ => none

/-! ## YAML -/

/-- A dictionary as a table. -/
def Yaml.Outline.ofDict (d : Dict String) : Yaml.Outline :=
  .table (d.entries.map fun (k, v) => (k, .text v))

/-- Settings as a table. -/
def Settings.outline (s : Settings) : List (String × Yaml.Outline) := [
  ("matching", .table [("case_sensitive", .bool s.matching.caseSensitive),
    ("compatible", .bool s.matching.compatible)]),
  ("vendors", .table [("use_builtins", .bool s.vendors.useBuiltins),
    ("aliases", .ofDict s.vendors.aliases), ("names", .ofDict s.vendors.names),
    ("legacy_ids", .ofDict s.vendors.legacyIds)]),
  ("output", .table [("format", .text s.output.format.name)])]

namespace Yaml

/-- The entries of a mapping, and of a place where nothing is written. -/
def entries? (root v : Yaml) : Option (List (Yaml × Yaml)) := do
  match ← root.resolve? v with
  | mapping entries => some entries
  | scalar s => if s.text.isEmpty && s.style == .plain then some [] else none
  | _ => none

/-- The text of a scalar. -/
def text? (root v : Yaml) : Option String := do return (← (← root.resolve? v).scalar?).text

/-- The members of a mapping whose keys are texts. -/
def members? (root v : Yaml) : Option (List (String × Yaml)) := do
  (← root.entries? v).mapM fun (k, v) => do return (← root.text? k, v)

/-- The value of a field, if at most one member names the field. -/
def field? (members : List (String × Yaml)) (name : String) : Option (Option Yaml) :=
  match members.filter fun m => m.1 == name with
  | [] => some none
  | [m] => some (some m.2)
  | _ => none

/-- The values of the fields of a record. -/
def fields? (root : Yaml) (names : List String) (v : Yaml) : Option (List (Option Yaml)) := do
  names.mapM (field? (← root.members? v))

/-- A field read by a reader, with a default for a field that is left out. -/
def fieldOr {α : Type} (default : α) (read : Yaml → Option α) : Option Yaml → Option α
  | none => some default
  | some v => read v

/-- The truth value of a node. A literal block is one if its tag says so. -/
def flag? (root v : Yaml) : Option Bool := do
  let s ← (← root.resolve? v).scalar?
  let tagged := s.style == .literal && s.tag == some (Tag.standard ++ Tag.ofString "bool")
  if s.style == .plain || tagged then bool? s.text else none

/-- The dictionary of a mapping of texts to texts. -/
def dict? (root v : Yaml) : Option (Dict String) := do
  let pairs ← (← root.members? v).mapM fun (k, v) => do return (k, ← root.text? v)
  return .ofList pairs

/-- The output format of a scalar: the format that its tag calls it, if nothing else is written, or
the format that it names. -/
def format? (root v : Yaml) : Option OutputFormat := do
  let s ← (← root.resolve? v).scalar?
  match s.tag.bind Tag.name? with
  | none => OutputFormat.ofName? s.text
  | some name =>
    if s.style == .plain && (s.text.isEmpty || isNull s.text) then OutputFormat.ofName? name
    else none

end Yaml

/-- The matching settings that a node of a document describes. -/
def MatchingSettings.ofYaml? (root v : Yaml) : Option MatchingSettings := do
  match ← root.fields? ["case_sensitive", "compatible"] v with
  | [caseSensitive, compatible] =>
    return { caseSensitive := ← Yaml.fieldOr true root.flag? caseSensitive
             compatible := ← Yaml.fieldOr false root.flag? compatible }
  | _ => none

/-- The vendor settings that a node of a document describes. -/
def VendorSettings.ofYaml? (root v : Yaml) : Option VendorSettings := do
  match ← root.fields? ["use_builtins", "aliases", "names", "legacy_ids"] v with
  | [useBuiltins, aliases, names, legacyIds] =>
    return { useBuiltins := ← Yaml.fieldOr true root.flag? useBuiltins
             aliases := ← Yaml.fieldOr .empty root.dict? aliases
             names := ← Yaml.fieldOr .empty root.dict? names
             legacyIds := ← Yaml.fieldOr .empty root.dict? legacyIds }
  | _ => none

/-- The output settings that a node of a document describes. -/
def OutputSettings.ofYaml? (root v : Yaml) : Option OutputSettings := do
  match ← root.fields? ["format"] v with
  | [format] => return { format := ← Yaml.fieldOr .text root.format? format }
  | _ => none

namespace Settings

/-- The settings that a document describes. -/
def ofYaml? (root : Yaml) : Option Settings := do
  match ← root.fields? ["matching", "vendors", "output"] root with
  | [matching, vendors, output] =>
    return { matching := ← Yaml.fieldOr {} (MatchingSettings.ofYaml? root) matching
             vendors := ← Yaml.fieldOr {} (VendorSettings.ofYaml? root) vendors
             output := ← Yaml.fieldOr {} (OutputSettings.ofYaml? root) output }
  | _ => none

/-! ## Texts -/

/-- The settings as text: as a settings file, or as JSON. -/
def render (s : Settings) : OutputFormat → String
  | .text => Yaml.document s.outline
  | .json => s.toJson.pretty

/-- The settings of a settings file with a given text. -/
def read (text : String) : Except Failure Settings :=
  match (Yaml.read? text).bind ofYaml? with
  | some s => .ok s
  | none => .error .yaml

/-- The settings of a JSON text. -/
def readJson (text : String) : Except Failure Settings :=
  match (Json.read? text).bind ofJson? with
  | some s => .ok s
  | none => .error .json

end Settings

end PackQuery
