import PackQuery.Json.Printer
import PackQuery.Settings.Basic

/-!
# The form of settings, for people and editors

An example file with all settings at their defaults, and a JSON schema by which an editor can
check a settings file.
-/

namespace PackQuery.Settings

/-- The name that a settings file has by default. -/
def defaultFileName : String := ".packmatch.yaml"

/-- The lines of the example file. -/
def exampleLines : List String := [
  "# packmatch configuration",
  "# Place this file at .packmatch.yaml in your project root or ~/.config/packmatch/",
  "",
  "matching:",
  "  # Compare alphanumeric version segments case-sensitively (compare command only)",
  "  case_sensitive: true",
  "  # Reject a higher major version for ranges without maximum",
  "  compatible: false",
  "",
  "vendors:",
  "  # Start from the built-in vendor tables",
  "  use_builtins: true",
  "  # Vendor name or alias -> numeric id",
  "  aliases: \x7b\x7d",
  "  #   Acme Semiconductor: '9000'",
  "  # Numeric id -> canonical display name",
  "  names: \x7b\x7d",
  "  #   '9000': Acme",
  "  # Retired numeric id -> current numeric id",
  "  legacy_ids: \x7b\x7d",
  "  #   '8999': '9000'",
  "",
  "output:",
  "  # Format: text, json",
  "  format: text"]

/-- A settings file with the default settings and a comment on each of them. -/
def sampleFile : String := String.join (exampleLines.map (· ++ "\n"))

namespace Schema

open Json (text record)

/-- The reference to a definition. -/
def reference (name : String) : List (String × Json) :=
  [("allOf", .array [record [("$ref", text ("#/definitions/" ++ name))]])]

/-- A member that is described by a definition. -/
def defined (description : String) (default : Json) (name : String) : Json :=
  record ([("description", text description), ("default", default)] ++ reference name)

/-- A truth value. -/
def flag (description : String) (default : Bool) : Json :=
  record [("description", text description), ("default", .bool default),
    ("type", text "boolean")]

/-- A table of texts. -/
def table (description : String) : Json :=
  record [("description", text description), ("default", record []), ("type", text "object"),
    ("additionalProperties", record [("type", text "string")])]

/-- An object with its members. -/
def objectOf (description : String) (members : List (String × Json)) : Json :=
  record [("description", text description), ("type", text "object"),
    ("properties", record members)]

/-- One of the values of an enumeration. -/
def choice (description value : String) : Json :=
  record [("description", text description), ("type", text "string"),
    ("enum", .array [text value])]

/-- The definition of matching settings. -/
def matching : Json :=
  objectOf "Version and attribute matching behavior."
    [("case_sensitive", flag ("Compare the alphanumeric parts of version segments " ++
        "case-sensitively in the `compare` command. Range checks and version selection are " ++
        "always case-sensitive. Release identifiers are always compared case-insensitively.")
        true),
     ("compatible",
      flag "Treat a major version above an open range minimum as a mismatch." false)]

/-- The definition of output settings. -/
def output : Json :=
  objectOf "Output configuration."
    [("format", defined "Output format for CLI results" (text "text") "OutputFormat")]

/-- The definition of output formats. -/
def format : Json :=
  record [("description", text "Output format for CLI results."),
    ("oneOf", .array [choice "Human readable text" "text", choice "Pretty-printed JSON" "json"])]

/-- The definition of vendor settings. -/
def vendors : Json :=
  objectOf ("Vendor table customization.\n\n" ++
      "Ids are decimal strings, as used in `\"Name:Id\"` vendor attributes.")
    [("aliases", table "Vendor name (or alias) to numeric id"),
     ("legacy_ids", table "Retired numeric id to current numeric id"),
     ("names", table "Numeric id to canonical display name"),
     ("use_builtins", flag "Start from the built-in vendor tables" true)]

/-- The schema of a settings file. -/
def schema : Json :=
  record [
    ("$schema", text "http://json-schema.org/draft-07/schema#"),
    ("title", text "AppConfig"),
    ("description", text ("Unified application configuration that can be loaded from CLI args " ++
      "or config files.")),
    ("type", text "object"),
    ("properties", record [
      ("matching", defined "Version and attribute matching behavior"
        (record [("case_sensitive", .bool true), ("compatible", .bool false)]) "MatchingConfig"),
      ("output", defined "Output configuration"
        (record [("format", text "text")]) "OutputConfig"),
      ("vendors", defined "Additional vendor names, ids and legacy ids"
        (record [("aliases", record []), ("legacy_ids", record []), ("names", record []),
          ("use_builtins", .bool true)]) "VendorConfig")]),
    ("definitions", record [
      ("MatchingConfig", matching),
      ("OutputConfig", output),
      ("OutputFormat", format),
      ("VendorConfig", vendors)])]

end Schema

/-- The text of the schema. -/
def schemaText : String := Schema.schema.pretty

end PackQuery.Settings
