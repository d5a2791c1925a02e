import PackQuery.Attributes.Assignment
import PackQuery.CommandLine.Command
import PackQuery.Report.Attributes
import PackQuery.Report.Matching
import PackQuery.Settings.Location
import PackQuery.Settings.Preset
import PackQuery.Settings.Validation
import PackQuery.Version.Strict

/-!
# Carrying out a command line

Settings are loaded first, whatever the command is, and a preset is laid over them. Vendor tables
are then made of the settings. A failure of any step ends the program with an error.

**Exit codes.** The code is 0 if a question is answered by yes or needs no such answer, 1 if it is
answered by no or something fails, and 2 if the command line is wrong.
-/

namespace PackQuery.CommandLine

/-- What the program leaves behind, files apart. -/
structure Outcome where
  code : Nat := 0
  /-- What is written to the standard output. -/
  output : String := ""
  /-- What is written to the standard error output. -/
  notes : String := ""
deriving DecidableEq, Repr

/-- An error: its message and the messages of its causes, the outermost first. -/
abbrev Chain := List String

namespace Chain

/-- A message whose lines but the first are indented. -/
def indented (blanks : Nat) (message : String) : String :=
  String.ofList (message.toList.flatMap fun c =>
    if c == '\n' then c :: List.replicate blanks ' ' else [c])

/-- The causes of an error, numbered if there are several. -/
def causeLines : List String → List String
  | [cause] => ["    " ++ indented 4 cause]
  | causes => causes.mapIdx fun i cause =>
      let number := toString i
      String.ofList (List.replicate (5 - number.length) ' ') ++ number ++ ": " ++
        indented 7 cause

/-- An error as text. -/
def text : Chain → String
  | [] => ""
  | [message] => "Error: " ++ message ++ "\n"
  | message :: causes =>
    "Error: " ++ message ++ "\n\nCaused by:\n" ++
      String.join ((causeLines causes).map (· ++ "\n"))

/-- A failure with its cause. -/
def ofFailure (f : Failure) : Chain := f.message :: f.cause?.toList

end Chain

namespace Outcome

/-- The outcome of an error. -/
def error (chain : Chain) : Outcome := { code := 1, notes := chain.text }

/-- The outcome of an answer. -/
def report (r : Report) (format : OutputFormat) : Outcome :=
  { code := if r.holds then 0 else 1, output := r.render format ++ "\n" }

/-- The outcome of a command line that is not carried out. -/
def ofStop : Stop → Outcome
  | .usage => { code := 2, notes := "Usage: packmatch [OPTIONS] <COMMAND>\n" }
  | .version => { output := "packmatch 0.1.0\n" }

/-- The outcome of what may have failed. -/
def ofExcept : Except Chain Outcome → Outcome
  | .ok outcome => outcome
  | .error chain => error chain

end Outcome

/-! ## Commands that answer a question -/

/-- Check that a version is strict. -/
def checkStrict (version : String) : Except Chain Unit :=
  match StrictVersion.read version with
  | .ok _ => .ok ()
  | .error fault => .error (.ofFailure (.version version fault.message))

/-- The attribute set of some arguments. -/
def readAttributes (tag : Option String) (arguments : List String) : Except Chain AttributeSet :=
  (Assignment.readSet tag arguments).mapError Assignment.failureChain

/-- The answer to a command, if the command asks something. -/
def answer? (vendors : Vendor.Registry) (s : MatchingSettings) :
    Command → Option (Except Chain Report)
  | .compare a b ignoreCase strict => some do
    if strict then
      checkStrict a
      checkStrict b
    return .comparison a b (s.caseSensitive && !ignoreCase)
  | .range version range compatible =>
    some (.ok (.range version range (compatible || s.compatible)))
  | .select filter versions compatible =>
    some (.ok (.selection filter versions (compatible || s.compatible)))
  | .wildcard a b => some (.ok (.wildcard a b))
  | .canonicalVendor vendor => some (.ok (.canonicalVendor vendors vendor))
  | .fullVendor vendor => some (.ok (.fullVendor vendors vendor))
  | .matchVendors a b => some (.ok (.vendorMatch vendors a b))
  | .identifiers attributes tag => some do
    return .identifiers vendors (← readAttributes tag attributes)
  | .matchAttributes entry request tag => some do
    let entry ← readAttributes tag entry
    let request ← readAttributes none request
    return .attributeMatch vendors entry request
  | _ => none

/-! ## Commands about settings -/

variable {m : Type → Type} [Monad m]

/-- Write a text into a file. -/
def writeFile (files : Files m) (path text : String) : m (Except Chain Unit) := do
  match ← files.write path text with
  | .ok () => return .ok ()
  | .error cause => return .error ["failed to write " ++ path, cause]

/-- Show the settings and where they come from. -/
def showSettings (s : Settings) (loadedFrom : Option String) (format : OutputFormat) : Outcome where
  output := Text.trimEnd (s.render format) ++ "\n"
  notes := match loadedFrom with
    | some path => "# Loaded from " ++ path ++ "\n"
    | none => "# No config file found, showing defaults\n"

/-- Show the path of the settings file. -/
def settingsPath : Option String → Outcome
  | some path => { output := path ++ "\n" }
  | none => { notes := "No config file found.\n" }

/-- Write a settings file with the defaults, but over another file only by force. -/
def initSettings (files : Files m) (path : String) (force : Bool) : m (Except Chain Outcome) := do
  if (← files.exists? path) && !force then
    return .error [path ++ " already exists. Remove it first or pass --force."]
  else
    let written ← writeFile files path Settings.sampleFile
    return written.map fun () => { notes := "Created " ++ path ++ "\n" }

/-- Write the schema of settings files into a file, or show it. -/
def settingsSchema (files : Files m) : Option String → m (Except Chain Outcome)
  | some path => return (← writeFile files path Settings.schemaText).map fun () => {}
  | none => return .ok { output := Settings.schemaText ++ "\n" }

/-! ## All commands -/

/-- The vendor tables that settings make. -/
def vendorsOf (s : Settings) : Except Chain Vendor.Registry :=
  if s.vendors.isBuiltinOnly then .ok .builtin
  else (Vendor.Registry.ofSettings s.vendors).mapError fun f =>
    "invalid vendor configuration" :: Chain.ofFailure f

/-- The settings with a preset laid over them. -/
def withPreset (s : Settings) : Option String → Except Chain Settings
  | none => .ok s
  | some name =>
    match Preset.ofName? name with
    | some preset => .ok (s.merge preset.settings)
    | none => .error ["Unknown preset: " ++ name ++ ". Valid options: " ++
        Text.join ", " (Preset.all.map Preset.name)]

/-- Carry out a command with its settings. -/
def perform (files : Files m) (env : Environment) (i : Invocation) (s : Settings)
    (loadedFrom : Option String) (vendors : Vendor.Registry) : m (Except Chain Outcome) := do
  let format := i.format.getD s.output.format
  match i.command with
  | .showSettings => return .ok (showSettings s loadedFrom format)
  | .settingsPath => return .ok (settingsPath (← Settings.find files env i.settingsFile))
  | .initSettings output force =>
    initSettings files (output.getD Settings.defaultFileName) force
  | .settingsSchema output => settingsSchema files output
  | command =>
    match answer? vendors s.matching command with
    | some answer => return answer.map (Outcome.report · format)
    | none => return .ok {}

/-- The settings file that an invocation names, if there is no such file. -/
def missingFile (files : Files m) : Option String → m (Option String)
  | some path => return if ← files.exists? path then none else some path
  | none => return none

/-- The settings of an invocation that was loaded with some settings, and its vendor tables. -/
def prepare (loaded : Settings) (i : Invocation) : Except Chain (Settings × Vendor.Registry) := do
  let s ← withPreset loaded i.preset
  return (s, ← vendorsOf s)

/-- Load the settings for an invocation and carry it out. -/
def invoke (files : Files m) (env : Environment) (i : Invocation) : m (Except Chain Outcome) := do
  match ← missingFile files i.settingsFile with
  | some path => return .error [(Settings.LoadFault.missing path).message]
  | none =>
    let (loaded, loadedFrom) ← Settings.loadOrDefault files env i.settingsFile
    match prepare loaded i with
    | .ok (s, vendors) => perform files env i s loadedFrom vendors
    | .error chain => return .error chain

/-- Run the program with some arguments. -/
def run (files : Files m) (env : Environment) (args : List String) : m Outcome := do
  match Invocation.read env.settingsFile args with
  | .error stop => return .ofStop stop
  | .ok i => return .ofExcept (← invoke files env i)

end PackQuery.CommandLine
