import PackQuery.Text.Escape

/-!
# Failures

Matching never fails: malformed versions, patterns and vendors have a meaning of their own. What
can fail is reading input, checking it, and the file system. A failure is a cause with the
contexts in which it arose, the outermost first.
-/

namespace PackQuery

/-- Why an input could not be read. -/
inductive ReadFault where
  /-- A text that is no strict version, with the reason. -/
  | version (text reason : String)
  /-- An argument that is no `name=value` pair. -/
  | argument (text : String)
  /-- JSON of the wrong form. -/
  | json
  /-- YAML of the wrong form. -/
  | yaml
deriving DecidableEq, Repr

namespace ReadFault

/-- The message of a fault. The readers of JSON and YAML do not say what is wrong. -/
def message? : ReadFault → Option String
  | version text reason => some ("Invalid version '" ++ text ++ "': " ++ reason)
  | argument text => some ("Invalid attribute '" ++ text ++ "': expected key=value")
  | json => none
  | yaml => none

end ReadFault

/-- What can be wrong with vendor tables. -/
inductive VendorFault where
  /-- The tables in use cannot be replaced. -/
  | alreadyInstalled
  /-- An id that is no decimal number. -/
  | invalidId (id : String)
deriving DecidableEq, Repr

/-- The message of a vendor fault. -/
def VendorFault.message : VendorFault → String
  | alreadyInstalled => "the process-wide vendor registry is already initialized"
  | invalidId id => "Invalid vendor id '" ++ id ++ "' (must be decimal digits)"

/-- Why an operation failed. -/
inductive Failure where
  /-- An input could not be read. -/
  | unreadable (context : String) (fault : ReadFault)
  /-- Vendor tables were refused. -/
  | vendor (context : String) (fault : VendorFault)
  /-- The file system refused; `cause` is what it said. -/
  | io (path : Option String) (message cause : String)
  /-- Settings are invalid. -/
  | settings (message : String)
  /-- A check failed. -/
  | invalid (message : String)
deriving DecidableEq, Repr

namespace Failure

/-- The failure of a text that is no strict version. -/
def version (text reason : String) : Failure := unreadable "version" (.version text reason)

/-- The failure of an argument that is no `name=value` pair. -/
def argument (text : String) : Failure := unreadable "attribute" (.argument text)

/-- The failure of JSON of the wrong form. -/
def json : Failure := unreadable "JSON deserialization" .json

/-- The failure of YAML of the wrong form. -/
def yaml : Failure := unreadable "YAML deserialization" .yaml

/-- A failure of the file system at a path. -/
def ioAt (path cause : String) : Failure := io (some path) cause cause

/-- A failure of the file system without a path. -/
def ioOf (cause : String) : Failure := io none cause cause

/-- How a message shows an optional path. -/
def pathText : Option String → String
  | some path => "Some(" ++ Text.quotedPath path ++ ")"
  | none => "None"

/-- The message of a failure. -/
def message : Failure → String
  | unreadable context _ => "Failed to parse input: " ++ context
  | vendor context _ => "Vendor registry error: " ++ context
  | io path message _ => "IO error at " ++ pathText path ++ ": " ++ message
  | settings message => "Invalid configuration: " ++ message
  | invalid message => "Validation failed: " ++ message

/-- The message of what a failure goes back to. -/
def cause? : Failure → Option String
  | unreadable _ fault => fault.message?
  | vendor _ fault => some fault.message
  | io _ _ cause => some cause
  | settings _ => none
  | invalid _ => none

/-- A context in front of those that are there. -/
def chain (outer inner : String) : String :=
  if inner = "" then outer else outer ++ ": " ++ inner

/-- The failure within one more context. -/
def within (context : String) : Failure → Failure
  | unreadable inner fault => unreadable (chain context inner) fault
  | vendor inner fault => vendor (chain context inner) fault
  | io path inner cause => io path (chain context inner) cause
  | settings inner => settings (chain context inner)
  | invalid inner => invalid (chain context inner)

end Failure

end PackQuery
