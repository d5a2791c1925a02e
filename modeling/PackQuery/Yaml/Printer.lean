import PackQuery.Yaml.Scalar.Block
import PackQuery.Yaml.Scalar.Quoted
import PackQuery.Yaml.Scalar.Style

/-!
# Writing YAML

An outline is what documents written here hold: truth values, texts, and tables of them under
text keys. Tables are block mappings, two columns to a level, and an empty table is a pair of
braces. A key that takes more than a line or 128 bytes stands behind a question mark, and its
value in a line of its own.
-/

namespace PackQuery.Yaml

/-- What can be written. -/
inductive Outline where
  | bool (b : Bool)
  | text (s : String)
  | table (entries : List (String × Outline))
deriving Inhabited

/-- A text that belongs to an entry in a column, with the end of its line. -/
def textLine (column : Nat) (s : List Char) : List Char :=
  match Style.ofText s with
  | .plain => s ++ ['\n']
  | .singleQuoted => Quoted.single (column + 2) s ++ ['\n']
  | .doubleQuoted => Quoted.double s ++ ['\n']
  | _ => Block.literal (column + 2) s

/-- The longest key, in bytes, that stands in front of its colon. -/
def longestKey : Nat := 128

/-- Whether a text stands in front of its colon. -/
def isSimpleKey (k : String) : Bool := k.utf8ByteSize ≤ longestKey && !(k.toList.any isBreak)

/-- What stands in front of the value of a key in a column. -/
def keyPart (column : Nat) (k : String) : List Char :=
  let blanks := List.replicate column ' '
  if isSimpleKey k then blanks ++ (textLine column k.toList).dropLast ++ [':']
  else blanks ++ '?' :: ' ' :: textLine column k.toList ++ blanks ++ [':']

mutual

/-- What stands behind the colon of a key in a column. -/
def valuePart (column : Nat) : Outline → List Char
  | .bool b => ' ' :: (if b then "true" else "false").toList ++ ['\n']
  | .text s => ' ' :: textLine column s.toList
  | .table [] => [' ', '\x7b', '\x7d', '\n']
  | .table ((k, v) :: es) =>
    '\n' :: keyPart (column + 2) k ++ valuePart (column + 2) v ++ entriesPart (column + 2) es

/-- The entries of a table in a column. -/
def entriesPart (column : Nat) : List (String × Outline) → List Char
  | [] => []
  | (k, v) :: es => keyPart column k ++ valuePart column v ++ entriesPart column es

end

/-- The document of a table. -/
def document (entries : List (String × Outline)) : String :=
  String.ofList (entriesPart 0 entries)

end PackQuery.Yaml
