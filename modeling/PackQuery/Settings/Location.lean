import PackQuery.Files.Basic
import PackQuery.Settings.Exchange
import PackQuery.Settings.Schema

/-!
# Finding and loading settings

Settings are loaded from one file. A file that the user names counts if it exists; otherwise the
working directory, the root of the repository around it, the user's configuration directory and
the home directory are searched in this order for a file with one of four names.

A file that is found but cannot be loaded counts as no file, and the search does not go on.
-/

namespace PackQuery

/-- Where the program runs. -/
structure Environment where
  /-- The working directory. -/
  directory : String
  home : Option String := none
  /-- The directory for the user's configuration, if it is not the usual one. -/
  configHome : Option String := none
  /-- The settings file named outside the command line. -/
  settingsFile : Option String := none

/-- The environment of some variables. An empty home is none, and a configuration directory must
be absolute. -/
def Environment.ofVariables (directory : String) (home configHome settingsFile : Option String) :
    Environment where
  directory
  home := home.filter (· ≠ "")
  configHome := configHome.filter Path.isAbsolute
  settingsFile

/-- The user's configuration directory. -/
def Environment.configDirectory? (env : Environment) : Option String :=
  env.configHome <|> env.home.map (Path.join · ".config")

namespace Settings

/-- The names that a settings file can have. -/
def fileNames : List String :=
  [defaultFileName, ".packmatch.yml", "packmatch.yaml", "packmatch.yml"]

/-- The paths of settings files in a directory. -/
def pathsIn (directory : String) : List String := fileNames.map (Path.join directory)

/-- The directories that are searched, where the root of a repository may be known. -/
def directories (env : Environment) (repository : Option String) : List String :=
  env.directory :: (repository.toList ++
    (env.configDirectory?.map (Path.join · "packmatch")).toList ++ env.home.toList)

variable {m : Type → Type} [Monad m]

/-- The settings file that is in use. -/
def find (files : Files m) (env : Environment) (named : Option String) : m (Option String) := do
  let repository ← files.firstHolding ".git" (Path.ancestors env.directory)
  files.firstExisting (named.toList ++ (directories env repository).flatMap pathsIn)

/-- Why settings cannot be loaded. -/
inductive LoadFault where
  | missing (path : String)
  | unreadable (cause : String)
  | malformed
deriving DecidableEq, Repr

namespace LoadFault

/-- The message of a fault. -/
def message : LoadFault → String
  | missing path => "Config file not found: " ++ path
  | unreadable cause => "Failed to read config file: " ++ cause
  | malformed => "Failed to parse config file"

/-- Whether a fault goes back to another one. -/
def hasCause : LoadFault → Bool
  | missing _ => false
  | _ => true

/-- A fault as a failure. -/
def failure : LoadFault → Failure
  | missing path => .ioAt path "config file not found"
  | unreadable cause => .ioOf cause
  | malformed => .yaml

end LoadFault

/-- The settings of a text. -/
def ofText (text : String) : Except LoadFault Settings :=
  (read text).mapError fun _ => .malformed

/-- The settings of the file at a path. -/
def load (files : Files m) (path : String) : m (Except LoadFault Settings) := do
  if ← files.exists? path then
    match ← files.read path with
    | .ok text => return ofText text
    | .error cause => return .error (.unreadable cause)
  else return .error (.missing path)

/-- The settings of the file that is in use, and its path; the defaults if it cannot be loaded. -/
def loadOrDefault (files : Files m) (env : Environment) (named : Option String) :
    m (Settings × Option String) := do
  match ← find files env named with
  | none => return ({}, none)
  | some path =>
    match ← load files path with
    | .ok settings => return (settings, some path)
    | .error _ => return ({}, none)

end Settings

end PackQuery
