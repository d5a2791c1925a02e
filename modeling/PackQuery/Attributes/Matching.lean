import PackQuery.Attributes.Basic
import PackQuery.Attributes.Key
import PackQuery.Vendor.Registry
import PackQuery.Version.Selection

/-!
# Matching attribute sets

The predicates that decide whether an entry satisfies a request. Component attributes have names
that start with `C`, device attributes names that start with `D`. Values are compared as wildcard
patterns, except that vendors are looked up in a registry and versions are compared with ranges.
-/

namespace PackQuery

namespace AttributeSet

/-- The tag of interface entries. -/
def apiTag : String := "api"

/-- Whether an entry is an interface. -/
def isApi (s : AttributeSet) : Bool := s.tag == some apiTag

/-- Whether an entry has every attribute that is required, with a value that matches. -/
def satisfies (vendors : Vendor.Registry) (entry required : AttributeSet) : Bool :=
  required.pairs.all fun (name, wanted) =>
    match entry.get? name with
    | none => false
    | some stored =>
      if Key.isVendor name then vendors.same stored wanted else Wildcard.agree stored wanted

/-- Whether two sets have equally many attributes and those of the second one are satisfied. -/
def alike (vendors : Vendor.Registry) (s t : AttributeSet) : Bool :=
  s.size == t.size && s.satisfies vendors t

/-- Whether two sets have the same attributes, whatever their tags. -/
def sameAttributes (s t : AttributeSet) : Bool := s.attributes == t.attributes

/-- Whether an entry passes the component attributes of a filter. A missing attribute passes if
the filter leaves it empty, and so does a missing interface version. Versions must lie in the
range that the filter gives. -/
def passesComponent (entry filter : AttributeSet) : Bool :=
  filter.pairs.all fun (name, wanted) =>
    !Key.isComponent name ||
      match entry.get? name with
      | none => wanted == "" || name == Key.apiVersion
      | some stored =>
        if Key.isVersion name then Version.Range.admits false wanted stored
        else Wildcard.agree wanted stored

/-- Whether a request asks for an interface: it matches all its component attributes but the
vendor. The interface version of the request is a range and may be missing. -/
def passesApi (api request : AttributeSet) : Bool :=
  !request.isEmpty &&
    api.pairs.all fun (name, mine) =>
      !(Key.isComponent name && name != Key.componentVendor) ||
        match request.get? name with
        | none => name == Key.apiVersion
        | some theirs =>
          if name == Key.apiVersion then Version.Range.admits false theirs mine
          else Wildcard.agree mine theirs

/-- Whether a device has an attribute with a value that matches. -/
def deviceValueMatches (vendors : Vendor.Registry) (device : AttributeSet)
    (name wanted : String) : Bool :=
  match device.get? name with
  | none => false
  | some theirs =>
    if name == Key.deviceVendor then vendors.same theirs wanted else Wildcard.agree wanted theirs

/-- Whether a device matches the attributes of a request that a test picks. -/
def passesDeviceBy (pick : String → Bool) (vendors : Vendor.Registry)
    (request device : AttributeSet) : Bool :=
  !device.isEmpty &&
    request.pairs.all fun (name, wanted) =>
      !pick name || deviceValueMatches vendors device name wanted

/-- Whether a device matches all device attributes of a request. -/
def passesDeviceAttributes (vendors : Vendor.Registry) (request device : AttributeSet) : Bool :=
  passesDeviceBy Key.isDevice vendors request device

/-- Whether a device matches the name, the processor and the vendor that a request gives. -/
def passesDevice (vendors : Vendor.Registry) (request device : AttributeSet) : Bool :=
  passesDeviceBy [Key.deviceName, Key.processor, Key.deviceVendor].contains vendors request device

end AttributeSet

end PackQuery
