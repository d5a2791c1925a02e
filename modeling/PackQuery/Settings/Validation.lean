import PackQuery.Settings.Basic
import PackQuery.Text.Cut
import PackQuery.Vendor.Registry

/-!
# Validating settings

Vendor settings can be wrong: ids must be decimal numbers, names must not be blank, a name that is
looked up must not contain a colon, and an id cannot retire in favour of itself. Only valid
settings give a registry.
-/

namespace PackQuery

/-- What is wrong with a setting. -/
structure SettingFault where
  /-- The path of the setting. -/
  field : String
  message : String
deriving DecidableEq, Repr

/-- A fault in one line. -/
def SettingFault.text (f : SettingFault) : String := f.field ++ ": " ++ f.message

namespace VendorSettings

/-- Whether a name is blank. -/
def isBlankName (name : String) : Bool := (Text.trimChars name.toList).isEmpty

/-- The fault of a condition that holds. -/
def faultIf (condition : Bool) (field message : String) : List SettingFault :=
  if condition then [⟨field, message⟩] else []

/-- What is wrong with the id of a name. -/
def aliasFaults (name id : String) : List SettingFault :=
  faultIf (isBlankName name) "vendors.aliases" "Vendor name must not be empty" ++
  faultIf (name.toList.contains ':') ("vendors.aliases." ++ name)
    "Vendor name must not contain ':'" ++
  faultIf (!Vendor.isId id) ("vendors.aliases." ++ name)
    ("Vendor id must be decimal digits, got '" ++ id ++ "'")

/-- What is wrong with the display name of an id. -/
def nameFaults (id name : String) : List SettingFault :=
  faultIf (!Vendor.isId id) ("vendors.names." ++ id)
    ("Vendor id must be decimal digits, got '" ++ id ++ "'") ++
  faultIf (isBlankName name) ("vendors.names." ++ id) "Vendor name must not be empty"

/-- What is wrong with the successor of an id. -/
def legacyFaults (old new : String) : List SettingFault :=
  if !Vendor.isId old || !Vendor.isId new then
    [⟨"vendors.legacy_ids." ++ old,
      "Vendor ids must be decimal digits, got '" ++ old ++ "' -> '" ++ new ++ "'"⟩]
  else faultIf (old = new) ("vendors.legacy_ids." ++ old) "Legacy id must differ from its target"

/-- All that is wrong with vendor settings, in the order of the entries. -/
def faults (s : VendorSettings) : List SettingFault :=
  s.aliases.entries.flatMap (fun p => aliasFaults p.1 p.2) ++
  s.names.entries.flatMap (fun p => nameFaults p.1 p.2) ++
  s.legacyIds.entries.flatMap (fun p => legacyFaults p.1 p.2)

end VendorSettings

/-- All that is wrong with some settings; only vendors can be. -/
def Settings.faults (s : Settings) : List SettingFault := s.vendors.faults

/-- The registry of the given tables over those that a registry has. -/
def Vendor.Registry.extend (r : Registry) (s : VendorSettings) : Registry :=
  { ids := r.ids.overlay s.aliases
    names := r.names.overlay s.names
    successors := r.successors.overlay s.legacyIds }

/-- The registry that vendor settings describe, or their first fault. -/
def Vendor.Registry.ofSettings (s : VendorSettings) : Except Failure Registry :=
  match s.faults with
  | fault :: _ => .error (.settings fault.text)
  | [] => .ok ((if s.useBuiltins then builtin else empty).extend s)

end PackQuery
