import PackQuery.Dict

/-!
# Settings

What a user can configure: how versions are matched, which vendors there are beyond the built-in
ones, and how results are shown. Everything has a default.

**Merging.** Laying settings over others keeps every choice that differs from its default, and
adds the vendor entries of the upper settings to those of the lower ones, over entries with the
same key.
-/

namespace PackQuery

/-- How results are shown. -/
inductive OutputFormat where
  | text | json
deriving DecidableEq, Repr, Inhabited

namespace OutputFormat

/-- The name of a format. -/
def name : OutputFormat → String
  | text => "text"
  | json => "json"

/-- The format of a name. -/
def ofName? (s : String) : Option OutputFormat := [text, json].find? (·.name == s)

end OutputFormat

/-- How versions are matched. -/
structure MatchingSettings where
  /-- Whether comparing two versions regards the case of letters in their segments. -/
  caseSensitive : Bool := true
  /-- Whether a range without a maximum ends before the next major version. -/
  compatible : Bool := false
deriving DecidableEq, Inhabited

/-- The vendors to know. -/
structure VendorSettings where
  /-- Whether the built-in tables are the start. -/
  useBuiltins : Bool := true
  /-- The ids of vendor names. -/
  aliases : Dict String := .empty
  /-- The display names of ids. -/
  names : Dict String := .empty
  /-- The current ids of retired ids. -/
  legacyIds : Dict String := .empty
deriving DecidableEq, Inhabited

/-- How results are shown. -/
structure OutputSettings where
  format : OutputFormat := .text
deriving DecidableEq, Inhabited

/-- All settings. -/
structure Settings where
  matching : MatchingSettings := {}
  vendors : VendorSettings := {}
  output : OutputSettings := {}
deriving DecidableEq, Inhabited

/-! ## Merging -/

/-- Matching settings laid over others. -/
def MatchingSettings.merge (a b : MatchingSettings) : MatchingSettings :=
  { caseSensitive := a.caseSensitive && b.caseSensitive
    compatible := a.compatible || b.compatible }

/-- Vendor settings laid over others. -/
def VendorSettings.merge (a b : VendorSettings) : VendorSettings :=
  { useBuiltins := a.useBuiltins && b.useBuiltins
    aliases := a.aliases.overlay b.aliases
    names := a.names.overlay b.names
    legacyIds := a.legacyIds.overlay b.legacyIds }

/-- Output settings laid over others. -/
def OutputSettings.merge (a b : OutputSettings) : OutputSettings :=
  if b.format = .text then a else b

/-- The settings `b` laid over the settings `a`. -/
def Settings.merge (a b : Settings) : Settings :=
  ⟨a.matching.merge b.matching, a.vendors.merge b.vendors, a.output.merge b.output⟩

/-- Whether there are no vendors but the built-in ones. -/
def VendorSettings.isBuiltinOnly (s : VendorSettings) : Bool :=
  s.useBuiltins && s.aliases.isEmpty && s.names.isEmpty && s.legacyIds.isEmpty

/-! ## Changing single settings -/

namespace Settings

/-- The settings with or without regard to case. -/
def withCaseSensitive (s : Settings) (b : Bool) : Settings :=
  { s with matching := { s.matching with caseSensitive := b } }

/-- The settings with or without the end of open ranges before the next major version. -/
def withCompatible (s : Settings) (b : Bool) : Settings :=
  { s with matching := { s.matching with compatible := b } }

/-- The settings with an output format. -/
def withFormat (s : Settings) (f : OutputFormat) : Settings := { s with output := ⟨f⟩ }

/-- The settings without the built-in vendors. -/
def withoutBuiltins (s : Settings) : Settings :=
  { s with vendors := { s.vendors with useBuiltins := false } }

/-- The settings with one more vendor name. -/
def withAlias (s : Settings) (name id : String) : Settings :=
  { s with vendors := { s.vendors with aliases := s.vendors.aliases.insert name id } }

/-- The settings with one more display name. -/
def withName (s : Settings) (id name : String) : Settings :=
  { s with vendors := { s.vendors with names := s.vendors.names.insert id name } }

/-- The settings with one more retired id. -/
def withLegacyId (s : Settings) (old new : String) : Settings :=
  { s with vendors := { s.vendors with legacyIds := s.vendors.legacyIds.insert old new } }

end Settings

end PackQuery
