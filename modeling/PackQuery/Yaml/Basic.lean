/-!
# YAML nodes and tokens

A document is a tree of scalars, sequences and mappings. A scalar keeps its style and its tag,
since they decide what its text means: plain `true` is a truth value and quoted `'true'` is not.
Keys of a mapping may repeat; what that means is for the reader of the mapping to say.

**References.** A node can be anchored by an id, and a reference stands for the node with its id,
anywhere in the document. Ids need not be unique: the node that starts last counts. A node may
hold a reference to itself, so references are followed one by one (`Yaml.resolve?`) and never
replaced by what they stand for.

**Tokens.** A text is a list of tokens. The marks of flow collections and of items, keys and values
are written, and so are scalars and what stands in front of nodes. Block collections have no marks
of their own: the columns of what they hold say where they start and end, and for that there are
tokens too. So is there one in front of every key, also in front of a key without a mark.
-/

namespace PackQuery

/-- How a scalar is written. -/
inductive ScalarStyle where
  | plain | singleQuoted | doubleQuoted
  /-- A block that keeps its line ends. -/
  | literal
  /-- A block that joins its lines. -/
  | folded
deriving DecidableEq, Repr, Inhabited

/-- The octets of a tag. They need not be text, since a tag can give them as numbers. -/
abbrev Tag := List UInt8

namespace Tag

/-- The tag with a given text. -/
def ofString (s : String) : Tag := s.toUTF8.data.toList

/-- What the tags with two exclamation marks stand for. -/
def standard : Tag := ofString "tag:yaml.org,2002:"

/-- The tag of an exclamation mark alone. -/
def bare : Tag := ofString "!"

/-- What a tag calls a value: the text behind its exclamation mark, or the mark alone. -/
def name? : Tag → Option String
  | [] => none
  | x :: octets =>
    if [x] != bare then none
    else if octets.isEmpty then some "!"
    else String.fromUTF8? ⟨octets.toArray⟩

end Tag

/-- A scalar. -/
structure Scalar where
  text : String
  style : ScalarStyle := .plain
  tag : Option Tag := none
deriving DecidableEq, Repr, Inhabited

/-- A node of a document. -/
inductive Yaml where
  | scalar (s : Scalar)
  | sequence (items : List Yaml)
  | mapping (entries : List (Yaml × Yaml))
  /-- A node with an id. -/
  | anchored (id : Nat) (node : Yaml)
  /-- The node with an id that stands elsewhere. -/
  | reference (id : Nat)
deriving Inhabited

namespace Yaml

/-- The node of a place where nothing is written. -/
def empty : Yaml := scalar { text := "" }

/-- The scalar that a node is. -/
def scalar? : Yaml → Option Scalar
  | scalar s => some s
  | _ => none

/-! ## References -/

mutual

/-- The last node with an id in a node: what starts later comes first. -/
def find? (id : Nat) : Yaml → Option Yaml
  | scalar _ => none
  | sequence items => findItem? id items
  | mapping entries => findEntry? id entries
  | anchored n node => find? id node <|> if n == id then some node else none
  | reference _ => none

/-- The last node with an id in some nodes. -/
def findItem? (id : Nat) : List Yaml → Option Yaml
  | [] => none
  | v :: vs => findItem? id vs <|> find? id v

/-- The last node with an id in some keys and values. -/
def findEntry? (id : Nat) : List (Yaml × Yaml) → Option Yaml
  | [] => none
  | (k, v) :: es => findEntry? id es <|> (find? id v <|> find? id k)

end

/-- The node that a node of a document stands for. -/
def resolve? (root : Yaml) : Yaml → Option Yaml
  | anchored _ node => some node
  | reference id => root.find? id
  | node => some node

/-! ## Tokens -/

/-- A token. -/
inductive Token where
  /-- The version that a document declares. -/
  | version (major minor : Nat)
  /-- A handle that a document declares, and what it stands for in tags. -/
  | handle (name : String) (meaning : Tag)
  | documentStart | documentEnd
  /-- The start of a block collection. -/
  | sequenceStart | mappingStart
  /-- The end of a block collection. -/
  | blockEnd
  /-- The mark of an item of a block sequence. -/
  | item
  /-- The place of a key, or its mark. -/
  | key
  /-- The mark between a key and its value. -/
  | value
  | openBracket | closeBracket | openBrace | closeBrace | comma
  /-- A name for the next node. -/
  | anchor (name : String)
  /-- A name that stands for a node. -/
  | reference (name : String)
  /-- A tag for the next node. Without a handle it is written in full. -/
  | tag (handle : String) (suffix : Tag)
  | scalar (style : ScalarStyle) (text : String)
deriving DecidableEq, Repr, Inhabited

end Yaml

end PackQuery
