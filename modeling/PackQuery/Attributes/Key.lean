/-!
# Well-known attribute names

Names of component attributes start with `C`, names of device attributes with `D`.
-/

namespace PackQuery.Key

/-- The class of a component. -/
def classification : String := "Cclass"

/-- The group within the class. -/
def group : String := "Cgroup"

/-- The part of the group. -/
def sub : String := "Csub"

/-- The variant of a component. -/
def variant : String := "Cvariant"

/-- The version of a component. -/
def componentVersion : String := "Cversion"

/-- The version of an interface. -/
def apiVersion : String := "Capiversion"

/-- The vendor of a component. -/
def componentVendor : String := "Cvendor"

/-- The bundle that a component belongs to. -/
def bundle : String := "Cbundle"

/-- The name of a device. -/
def deviceName : String := "Dname"

/-- The variant of a device. -/
def deviceVariant : String := "Dvariant"

/-- The vendor of a device. -/
def deviceVendor : String := "Dvendor"

/-- The family of a device. -/
def deviceFamily : String := "Dfamily"

/-- The part of the family. -/
def deviceSubFamily : String := "DsubFamily"

/-- The processor within a device. -/
def processor : String := "Pname"

/-- The vendor of a pack. -/
def vendor : String := "vendor"

/-- The name of a pack. -/
def name : String := "name"

/-- The version of a pack. -/
def version : String := "version"

/-- The condition under which a component may be used. -/
def condition : String := "condition"

/-- The document of an entry. -/
def doc : String := "doc"

/-- How often a component may be used. -/
def maxInstances : String := "maxInstances"

/-- Whether an attribute classifies a component. -/
def isComponent (name : String) : Bool := name.toList.head? == some 'C'

/-- Whether an attribute describes a device. -/
def isDevice (name : String) : Bool := name.toList.head? == some 'D'

/-- Whether the value of an attribute is a vendor. -/
def isVendor (name : String) : Bool := name == deviceVendor || name == vendor

/-- Whether the value of an attribute is a version. -/
def isVersion (name : String) : Bool := name == componentVersion || name == apiVersion

end PackQuery.Key
