import PackQuery.Attributes.Matching

/-!
# Identifiers

The texts that name an entry, made of its attributes:

* component: `Vendor[.Bundle]::Class.Group[.Sub][(condition)][:Variant][:version]`
* interface: `::Class.Group[:version](API)`
* pack: `vendor.name[.version]`
* bundle: `Vendor.Bundle::Class[:version]`
* taxonomy: `Class[.Group[.Sub]]`

The condition is part of the unique component id only. An interface is named by its interface id,
without a version, wherever a component id is asked for.
-/

namespace PackQuery.AttributeSet

/-! ## Well-known attributes -/

/-- The version of an entry. -/
def version (s : AttributeSet) : String :=
  if s.isApi then s.get Key.apiVersion else s.firstOf [Key.componentVersion, Key.version]

/-- The version with the variant behind it. -/
def versionAndVariant (s : AttributeSet) : String :=
  if s.get Key.variant = "" then s.version else s.version ++ " " ++ s.get Key.variant

/-- The vendor of an entry as it is written; an interface has none. -/
def vendor (s : AttributeSet) : String :=
  if s.isApi then "" else s.firstOf [Key.componentVendor, Key.vendor]

/-- The display name of the vendor. -/
def vendorName (vendors : Vendor.Registry) (s : AttributeSet) : String :=
  vendors.canonicalName s.vendor

/-- The document of an entry, by default its name. -/
def document (s : AttributeSet) : String := s.firstOf [Key.doc, Key.name]

/-- The device, or its variant, with the processor behind it. -/
def fullDeviceName (s : AttributeSet) : String :=
  s.firstOf [Key.deviceVariant, Key.deviceName] ++
    if s.get Key.processor = "" then "" else ":" ++ s.get Key.processor

/-- Whether the number of instances is given. -/
def hasMaxInstances (s : AttributeSet) : Bool := s.get Key.maxInstances != ""

/-- The number of instances, at least one. -/
def maxInstances (s : AttributeSet) : Int := max 1 (s.getSigned32 Key.maxInstances 1)

/-! ## Parts of identifiers -/

/-- A part behind a mark; nothing if the part is empty. -/
def optionalPart (mark part : String) : String := if part = "" then "" else mark ++ part

/-- The display name of the vendor and the bundle; an interface has neither. -/
def vendorAndBundle (vendors : Vendor.Registry) (s : AttributeSet) : String :=
  if s.isApi then "" else s.vendorName vendors ++ optionalPart "." (s.get Key.bundle)

/-- Class, group and sub with a delimiter between them; the sub may be missing. -/
def classGroupSub (delimiter : Char) (s : AttributeSet) : String :=
  let d := String.singleton delimiter
  s.get Key.classification ++ d ++ s.get Key.group ++ optionalPart d (s.get Key.sub)

/-- The parts that a component identifier may show. -/
structure Parts where
  variant : Bool := false
  version : Bool := false
  condition : Bool := false
deriving DecidableEq, Repr

/-- The variant and the version, as far as they are shown. -/
def variantAndVersion (parts : Parts) (s : AttributeSet) : String :=
  (if parts.variant then optionalPart ":" (s.get Key.variant) else "") ++
    (if parts.version then optionalPart ":" s.version else "")

/-- The condition in parentheses, if it is shown and not empty. -/
def conditionPart (parts : Parts) (s : AttributeSet) : String :=
  if parts.condition ∧ s.get Key.condition ≠ "" then "(" ++ s.get Key.condition ++ ")" else ""

/-- A component identifier behind a given owner. -/
def componentText (owner : String) (parts : Parts) (delimiter : Char) (s : AttributeSet) :
    String :=
  owner ++ "::" ++ s.classGroupSub delimiter ++ s.conditionPart parts ++ s.variantAndVersion parts

/-! ## Identifiers -/

/-- The interface id. -/
def apiId (withVersion : Bool) (s : AttributeSet) : String :=
  "::" ++ s.get Key.classification ++ "." ++ s.get Key.group ++
    (if withVersion then optionalPart ":" (s.get Key.apiVersion) else "") ++ "(API)"

/-- The component id of the given parts, or the interface id of an interface. -/
def idWith (vendors : Vendor.Registry) (parts : Parts) (s : AttributeSet) : String :=
  if s.isApi then s.apiId false else s.componentText (s.vendorAndBundle vendors) parts '.'

/-- The component id with condition and variant. -/
def uniqueId (vendors : Vendor.Registry) (withVersion : Bool) (s : AttributeSet) : String :=
  s.idWith vendors { variant := true, version := withVersion, condition := true }

/-- The component id with the variant. -/
def componentId (vendors : Vendor.Registry) (withVersion : Bool) (s : AttributeSet) : String :=
  s.idWith vendors { variant := true, version := withVersion }

/-- The id that all variants and versions of a component share. -/
def aggregateId (vendors : Vendor.Registry) (s : AttributeSet) : String :=
  s.componentText (s.vendorAndBundle vendors) {} '.'

/-- Vendor and bundle, empty without a bundle. -/
def bundleShortId (vendors : Vendor.Registry) (s : AttributeSet) : String :=
  if s.get Key.bundle = "" then "" else s.vendorAndBundle vendors

/-- The bundle id, empty without a bundle. -/
def bundleId (vendors : Vendor.Registry) (withVersion : Bool) (s : AttributeSet) : String :=
  if s.get Key.bundle = "" then ""
  else s.vendorAndBundle vendors ++ "::" ++ s.get Key.classification ++
    if withVersion then optionalPart ":" s.version else ""

/-- Class, group and sub as far as they go. -/
def taxonomyId (s : AttributeSet) : String :=
  if s.get Key.classification = "" then ""
  else s.get Key.classification ++
    if s.get Key.group = "" then ""
    else "." ++ s.get Key.group ++ optionalPart "." (s.get Key.sub)

/-- The pack id; its version is without build metadata. -/
def packId (withVersion : Bool) (s : AttributeSet) : String :=
  (if s.get Key.vendor = "" then "" else s.get Key.vendor ++ ".") ++ s.get Key.name ++
    if withVersion ∧ s.version ≠ "" then "." ++ Version.dropMetadata s.version else ""

/-- The name of the group of all components of a class. -/
def projectGroup (s : AttributeSet) : String := "::" ++ s.get Key.classification

/-- The name of a component in a list. -/
def displayName (withClass : Bool) (parts : Parts) (delimiter : Char) (s : AttributeSet) :
    String :=
  let d := String.singleton delimiter
  (if withClass then s.get Key.classification ++ d else "") ++ s.get Key.group ++
    optionalPart d (s.get Key.sub) ++ s.variantAndVersion parts

/-- The name of the header that is included before all others. -/
def preIncludeFile (s : AttributeSet) : String :=
  "Pre_Include_" ++ Wildcard.toIdentifier true (s.classGroupSub '_') ++ ".h"

end PackQuery.AttributeSet

namespace PackQuery.PackId

/-- The vendor of a pack id: what stands before the first dot. -/
def vendor (id : String) : String := Text.before '.' id

/-- The name in a pack id: what stands between the first two dots, or all of an id without
dots. -/
def name (id : String) : String :=
  match Chars.after? '.' id.toList with
  | some rest => String.ofList (Chars.before '.' rest)
  | none => id

end PackQuery.PackId
