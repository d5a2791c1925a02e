/-!
# Options

A command line is a list of words. A word that starts with two dashes names an option, and one
that starts with a single dash a cluster of options of one letter each. The value of an option
follows behind an equals sign, in the rest of its cluster, or as the next word, which must not
start with a dash unless it is just a dash. Behind the word `--` every word is an operand.

An option may be given only once, unless it collects its values. Among the options of a group of
commands the first operand is the name of a command, which has options of its own.
-/

namespace PackQuery.CommandLine

/-- An option. -/
structure OptionRule where
  /-- The name behind two dashes. -/
  name : String
  /-- The letter behind one dash. -/
  letter : Option Char := none
  /-- Whether the option has a value. -/
  hasValue : Bool := false
  /-- Whether the option may be given more than once. -/
  collects : Bool := false
  /-- The values that the option can have. -/
  accepts : String → Bool := fun _ => true
  /-- Whether the option asks for the version of the program and nothing else. -/
  asksVersion : Bool := false

/-- Why a command line is not carried out. -/
inductive Stop where
  /-- The command line is wrong. -/
  | usage
  /-- Only the version of the program is wanted. -/
  | version
deriving DecidableEq, Repr

/-- What has been read of a command line. -/
structure Words where
  /-- The options with their values, the last one first; without a value the text is empty. -/
  options : List (String × String) := []
  /-- The operands, the last one first. -/
  operands : List String := []
deriving Repr

namespace Words

/-- The value of an option. -/
def value? (w : Words) (name : String) : Option String :=
  (w.options.find? (·.1 == name)).map (·.2)

/-- The values of an option, in the order in which they were given. -/
def values (w : Words) (name : String) : List String :=
  (w.options.filter (·.1 == name)).reverse.map (·.2)

/-- Whether an option was given. -/
def given (w : Words) (name : String) : Bool := (w.value? name).isSome

/-- The words with one more option. -/
def add (w : Words) (rule : OptionRule) (value : String) : Except Stop Words :=
  if w.given rule.name && !rule.collects then .error .usage
  else if !rule.accepts value then .error .usage
  else if rule.asksVersion then .error .version
  else .ok { w with options := (rule.name, value) :: w.options }

end Words

/-- The characters without one equals sign at the start. -/
def dropEquals : List Char → List Char
  | '=' :: s => s
  | s => s

/-- The options of a cluster; if the last one has its value in the next word, also that option. -/
def readCluster (rules : List OptionRule) (w : Words) :
    List Char → Except Stop (Words × Option OptionRule)
  | [] => .ok (w, none)
  | c :: rest =>
    match rules.find? (·.letter == some c) with
    | none => .error .usage
    | some rule =>
      if !rule.hasValue then do readCluster rules (← w.add rule "") rest
      else if rest.isEmpty then .ok (w, some rule)
      else do return (← w.add rule (String.ofList (dropEquals rest)), none)

/-- The option behind two dashes, and the option itself if its value is in the next word. -/
def readLong (rules : List OptionRule) (w : Words) (s : List Char) :
    Except Stop (Words × Option OptionRule) :=
  let name := String.ofList (s.takeWhile (· != '='))
  match rules.find? (·.name == name), s.dropWhile (· != '=') with
  | none, _ => .error .usage
  | some rule, [] => if rule.hasValue then .ok (w, some rule) else return (← w.add rule "", none)
  | some rule, _ :: value =>
    if rule.hasValue then return (← w.add rule (String.ofList value), none) else .error .usage

/-- Read words up to the end or, in a group, up to the name of a command: also gives that name and
the words behind it. `pending` is an option that still needs its value. -/
def readWords (rules : List OptionRule) (isGroup : Bool) :
    Option OptionRule → Words → List String → Except Stop (Words × List String)
  | none, w, [] => .ok (w, [])
  | some _, _, [] => .error .usage
  | pending, w, word :: rest =>
    match word.toList with
    | ['-', '-'] =>
      if pending.isSome || (isGroup && !rest.isEmpty) then .error .usage
      else .ok ({ w with operands := rest.reverse ++ w.operands }, [])
    | '-' :: '-' :: s =>
      if pending.isSome then .error .usage
      else do
        let (w, pending) ← readLong rules w s
        readWords rules isGroup pending w rest
    | '-' :: c :: s =>
      if pending.isSome then .error .usage
      else do
        let (w, pending) ← readCluster rules w (c :: s)
        readWords rules isGroup pending w rest
    | _ =>
      match pending with
      | some rule => do readWords rules isGroup none (← w.add rule word) rest
      | none =>
        if isGroup then .ok (w, word :: rest)
        else readWords rules isGroup none { w with operands := word :: w.operands } rest

end PackQuery.CommandLine
