import PackQuery.CommandLine.Options
import PackQuery.Settings.Basic

/-!
# Commands

The commands of the program with their options and operands. A command is named by one or two
words. Some options are common to all commands and can stand anywhere: in front of the first word,
between the words, or behind them. Where such an option is given more than once, in different
places, the last place counts.
-/

namespace PackQuery.CommandLine

/-- A question to answer, or something to do with settings. -/
inductive Command where
  | compare (first second : String) (ignoreCase strict : Bool)
  | range (version range : String) (compatible : Bool)
  | select (filter : String) (versions : List String) (compatible : Bool)
  | wildcard (first second : String)
  | canonicalVendor (vendor : String)
  | fullVendor (vendor : String)
  | matchVendors (first second : String)
  | identifiers (attributes : List String) (tag : Option String)
  | matchAttributes (entry request : List String) (tag : Option String)
  | showSettings
  | settingsPath
  | initSettings (output : Option String) (force : Bool)
  | settingsSchema (output : Option String)
deriving DecidableEq, Repr

/-- A command with the options that all commands have. -/
structure Invocation where
  /-- The settings file to use. -/
  settingsFile : Option String := none
  /-- The name of a preset to lay over the settings. -/
  preset : Option String := none
  format : Option OutputFormat := none
  command : Command
deriving DecidableEq, Repr

/-! ## Options -/

/-- An option without a value. -/
def flag (name : String) (letter : Option Char) : OptionRule := { name, letter }

/-- Whether a text can be a path. -/
def isPath (s : String) : Bool := !s.isEmpty

/-- The options that all commands have. -/
def commonOptions : List OptionRule := [
  flag "verbose" (some 'v'),
  flag "quiet" (some 'q'),
  { name := "config", hasValue := true, accepts := isPath },
  { name := "preset", hasValue := true },
  { name := "format", letter := some 'f', hasValue := true
    accepts := fun s => (OutputFormat.ofName? s).isSome }]

/-- The option that asks for the version of the program. -/
def versionOption : OptionRule :=
  { name := "version", letter := some 'V', asksVersion := true }

/-- The option for the tag of an attribute set. -/
def tagOption : OptionRule := { name := "tag", letter := some 't', hasValue := true }

/-- An option for attributes. -/
def attributesOption (name : String) (letter : Char) : OptionRule :=
  { name, letter := some letter, hasValue := true, collects := true }

/-- The option for a file to write. -/
def outputOption : OptionRule :=
  { name := "output", letter := some 'o', hasValue := true, accepts := isPath }

/-! ## The commands -/

/-- How a command is written. -/
structure CommandRule where
  /-- The words that name the command. -/
  path : List String
  options : List OptionRule := []
  /-- The command of some options and operands, if they are complete. -/
  build : Words → List String → Option Command

/-- All commands. -/
def commands : List CommandRule := [
  { path := ["compare"]
    options := [flag "ignore-case" (some 'i'), flag "strict" (some 's')]
    build := fun w operands =>
      match operands with
      | [a, b] => some (.compare a b (w.given "ignore-case") (w.given "strict"))
      | _ => none },
  { path := ["range"]
    options := [flag "compatible" (some 'c')]
    build := fun w operands =>
      match operands with
      | [version, range] => some (.range version range (w.given "compatible"))
      | _ => none },
  { path := ["select"]
    options := [flag "compatible" (some 'c')]
    build := fun w operands =>
      match operands with
      | filter :: v :: vs => some (.select filter (v :: vs) (w.given "compatible"))
      | _ => none },
  { path := ["wildcard"]
    build := fun _ operands =>
      match operands with
      | [a, b] => some (.wildcard a b)
      | _ => none },
  { path := ["vendor", "canonical"]
    build := fun _ operands =>
      match operands with
      | [vendor] => some (.canonicalVendor vendor)
      | _ => none },
  { path := ["vendor", "full"]
    build := fun _ operands =>
      match operands with
      | [vendor] => some (.fullVendor vendor)
      | _ => none },
  { path := ["vendor", "match"]
    build := fun _ operands =>
      match operands with
      | [a, b] => some (.matchVendors a b)
      | _ => none },
  { path := ["attrs", "id"]
    options := [tagOption]
    build := fun w operands =>
      if operands.isEmpty then none else some (.identifiers operands (w.value? "tag")) },
  { path := ["attrs", "match"]
    options := [attributesOption "entry" 'e', attributesOption "request" 'r', tagOption]
    build := fun w operands =>
      if operands.isEmpty && w.given "entry" then
        some (.matchAttributes (w.values "entry") (w.values "request") (w.value? "tag"))
      else none },
  { path := ["config", "show"]
    build := fun _ operands => if operands.isEmpty then some .showSettings else none },
  { path := ["config", "path"]
    build := fun _ operands => if operands.isEmpty then some .settingsPath else none },
  { path := ["config", "init"]
    options := [outputOption, flag "force" none]
    build := fun w operands =>
      if operands.isEmpty then some (.initSettings (w.value? "output") (w.given "force"))
      else none },
  { path := ["config", "schema"]
    options := [outputOption]
    build := fun w operands =>
      if operands.isEmpty then some (.settingsSchema (w.value? "output")) else none }]

/-! ## Reading a command line -/

/-- The words of a command line, place by place with the last place first, and the command. -/
structure Reading where
  places : List Words
  command : Command

/-- The command of words that name it, and what follows them. -/
def readCommand (places : List Words) (path rest : List String) : Except Stop Reading :=
  match commands.find? (·.path == path) with
  | none => .error .usage
  | some rule => do
    let (w, _) ← readWords (commonOptions ++ rule.options) false none {} rest
    match rule.build w w.operands.reverse with
    | some command => return { places := w :: places, command }
    | none => .error .usage

/-- Read all words of a command line. -/
def readPlaces (args : List String) : Except Stop Reading := do
  let (w, words) ← readWords (versionOption :: commonOptions) true none {} args
  match words with
  | [] => .error .usage
  | name :: rest =>
    if commands.any (·.path == [name]) then readCommand [w] [name] rest
    else if commands.any (·.path.head? == some name) then do
      let (v, words) ← readWords commonOptions true none {} rest
      match words with
      | [] => .error .usage
      | word :: rest => readCommand [v, w] [name, word] rest
    else .error .usage

/-- The value of an option in the last place where it is given. -/
def lastValue? (places : List Words) (name : String) : Option String :=
  places.findSome? (·.value? name)

/-- The invocation that a command line asks for. A settings file can also be named from outside,
for every place where none is named. -/
def Invocation.read (settingsFile : Option String) (args : List String) :
    Except Stop Invocation := do
  let r ← readPlaces args
  if r.places.any (!·.given "config") && settingsFile.any (!isPath ·) then .error .usage
  else return {
    settingsFile := lastValue? r.places "config" <|> settingsFile
    preset := lastValue? r.places "preset"
    format := (lastValue? r.places "format").bind OutputFormat.ofName?
    command := r.command }

end PackQuery.CommandLine
