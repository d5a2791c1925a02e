import PackQuery.Text.Cut

/-!
# Files

What the program asks of a file system, as a record of operations in some monad: in `IO` they act
on the disk, in a state monad on a tree in memory (`FileTree`). What is refused is said in a text.

Paths are texts with slashes. A path that starts with a slash is absolute, and any other is
relative to the working directory.
-/

namespace PackQuery

/-- The operations of a file system. -/
structure Files (m : Type → Type) where
  /-- Whether there is a file or a directory at a path. -/
  exists? : String → m Bool
  /-- The text of a file, or why there is none. -/
  read : String → m (Except String String)
  /-- Put a text into a file, or say why it cannot be done. -/
  write : String → String → m (Except String Unit)

namespace Files

variable {m : Type → Type} [Monad m]

/-- The first path at which there is something. -/
def firstExisting (files : Files m) : List String → m (Option String)
  | [] => return none
  | path :: paths => do
    if ← files.exists? path then return some path else firstExisting files paths

/-- The first of some directories that holds something of a given name. -/
def firstHolding (files : Files m) (name : String) : List String → m (Option String)
  | [] => return none
  | directory :: directories => do
    if ← files.exists? (directory ++ "/" ++ name) then return some directory
    else firstHolding files name directories

end Files

namespace Path

/-- Whether a path starts at the root. -/
def isAbsolute (path : String) : Bool := path.toList.head? == some '/'

/-- The path of a name in a directory. -/
def join (directory name : String) : String :=
  if directory.toList.getLast? == some '/' then directory ++ name else directory ++ "/" ++ name

/-- The pieces of a path between its slashes. -/
def steps (path : String) : List String :=
  (Chars.splitOn '/' path.toList).map String.ofList

/-- The names behind a step from some names, the innermost first: a dot stays, and two dots go up
to the directory above, if there is one. -/
def follow (names : List String) (step : String) : List String :=
  if step == "" || step == "." then names
  else if step == ".." then names.drop 1
  else step :: names

/-- The names on an absolute path, the innermost first. -/
def names (path : String) : List String := (steps path).foldl follow []

/-- The path of some names, the innermost first. -/
def ofNames (names : List String) : String := "/" ++ Text.join "/" names.reverse

/-- An absolute path without dots and needless slashes. -/
def normal (path : String) : String := ofNames (names path)

/-- The starts of a text that end in front of a slash, the longest first, from a text that is
given backwards. -/
def parentsOf : List Char → List String
  | [] => []
  | '/' :: rest => String.ofList rest.reverse :: parentsOf rest
  | _ :: rest => parentsOf rest

/-- A directory and the directories above it, the nearest first. The root, whose name in front of
the slash is empty, comes last. -/
def ancestors (directory : String) : List String :=
  directory :: parentsOf directory.toList.reverse

end Path

end PackQuery
