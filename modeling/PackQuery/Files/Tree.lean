import PackQuery.Dict
import PackQuery.Files.Basic

/-!
# Files in memory

A tree of files and directories, which stands for a file system wherever none is at hand. Each
file and directory is listed under its absolute path, the root apart, which is always there.

**Looking up.** A path is followed name by name; a dot stays, two dots go up, and every name but
the last one must be that of a directory. Above the root there is the root again. A path that ends
with a slash can only be a directory.
-/

namespace PackQuery

/-- What a name in a tree stands for. -/
inductive FileNode where
  | file (text : String)
  /-- A file that takes every text and stays empty. -/
  | sink
  | directory
deriving DecidableEq, Repr

/-- Files and directories by their absolute paths. -/
structure FileTree where
  nodes : Dict FileNode := .empty

/-- Why an operation on files is refused. -/
inductive Refusal where
  | missing | notDirectory | isDirectory | nameTooLong
deriving DecidableEq, Repr

/-- The text of a refusal. -/
def Refusal.message : Refusal → String
  | missing => "No such file or directory (os error 2)"
  | notDirectory => "Not a directory (os error 20)"
  | isDirectory => "Is a directory (os error 21)"
  | nameTooLong => "File name too long (os error 36)"

namespace FileTree

/-- The most bytes of a name. -/
def longestName : Nat := 255

/-- The most bytes of a path. -/
def longestPath : Nat := 4095

/-- The node of some names, the innermost first. -/
def node? (t : FileTree) (names : List String) : Option FileNode :=
  if names.isEmpty then some .directory else t.nodes.get? (Path.ofNames names)

/-- The names that some steps lead to from some names, the innermost first. The last name need not
be that of anything. -/
def follow (t : FileTree) (names : List String) : List String → Except Refusal (List String)
  | [] => .ok names
  | step :: steps =>
    match t.node? names with
    | none => .error .missing
    | some .directory =>
      if longestName < step.utf8ByteSize then .error .nameTooLong
      else follow t (Path.follow names step) steps
    | some _ => .error .notDirectory

/-- The names that a path leads to from a working directory. -/
def locate (t : FileTree) (directory path : String) : Except Refusal (List String) :=
  if path == "" then .error .missing
  else if longestPath < path.utf8ByteSize then .error .nameTooLong
  else if Path.isAbsolute path then t.follow [] (Path.steps path)
  else t.follow (Path.names directory) (Path.steps path)

/-- Whether there is something at a path. -/
def has (t : FileTree) (directory path : String) : Bool :=
  match t.locate directory path with
  | .ok names => (t.node? names).isSome
  | .error _ => false

/-- The text of the file at a path. -/
def textAt (t : FileTree) (directory path : String) : Except Refusal String := do
  match t.node? (← t.locate directory path) with
  | some (.file text) => .ok text
  | some .sink => .ok ""
  | some .directory => .error .isDirectory
  | none => .error .missing

/-- A path without the slashes at its end, but for one that is the whole path. -/
def withoutSlash (path : String) : String :=
  match path.toList.reverse.dropWhile (· == '/') with
  | [] => path
  | s => String.ofList s.reverse

/-- The tree with a text in the file at a path. -/
def withText (t : FileTree) (directory path text : String) : Except Refusal FileTree := do
  let names ← t.locate directory (withoutSlash path)
  if path.toList.getLast? == some '/' then .error .isDirectory
  else
    match t.node? names with
    | some .directory => .error .isDirectory
    | some .sink => .ok t
    | _ => .ok ⟨t.nodes.insert (Path.ofNames names) (.file text)⟩

/-- The tree with the directories that some names need, the innermost first. -/
def withDirectories (t : FileTree) : List String → FileTree
  | [] => t
  | name :: outer =>
    let t := withDirectories t outer
    if (t.node? (name :: outer)).isSome then t
    else ⟨t.nodes.insert (Path.ofNames (name :: outer)) .directory⟩

/-- The tree with a node at an absolute path, and with the directories in which it lies. -/
def add (t : FileTree) (path : String) (node : FileNode) : FileTree :=
  match Path.names path with
  | [] => t
  | name :: outer => ⟨(t.withDirectories outer).nodes.insert (Path.ofNames (name :: outer)) node⟩

/-- The operations on a tree from a working directory. -/
def files (directory : String) : Files (StateM FileTree) where
  exists? path := return (← get).has directory path
  read path := return ((← get).textAt directory path).mapError Refusal.message
  write path text := do
    match (← get).withText directory path text with
    | .ok t => set t; return .ok ()
    | .error refusal => return .error refusal.message

/-- The texts of the files that are not the same in an older tree. -/
def changes (old new : FileTree) : List (String × String) :=
  new.nodes.entries.filterMap fun (path, node) =>
    match node with
    | .file text => if old.nodes.get? path == some node then none else some (path, text)
    | _ => none

end FileTree

end PackQuery
