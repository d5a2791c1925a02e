import PackQuery.Dict
import PackQuery.Yaml.Token.Lexer

/-!
# Reading YAML

A text holds one document, which is one node, and a document can declare its version and handles of
tags in front. A place where a node could stand is an empty scalar if nothing else is written there.

**Names.** A node is anchored by a name, and the name stands for the node that it was last given to.
The id of a node is the number of different names that have been given in front of it.

**Tags.** A tag is what its handle stands for followed by the rest of the tag. The tag of an
exclamation mark alone is none, unless nothing else is written.
-/

namespace PackQuery.Yaml

/-! ## Declarations -/

/-- What handles of tags stand for; the first declaration of a handle counts. -/
abbrev Handles := List (String × Tag)

/-- The handles that need no declaration. -/
def standardHandles : Handles := [("!", .bare), ("!!", .standard)]

/-- The tag that a handle and the rest of a tag make up. -/
def Handles.tag? (handles : Handles) (handle : String) (suffix : Tag) : Option Tag :=
  if handle.isEmpty then some suffix
  else (handles.find? (·.1 == handle)).map (·.2 ++ suffix)

/-- The handles that tokens in front of a document declare, and the tokens behind them. The version
can be declared once, as 1.1 or 1.2, and every handle once. -/
def declarations? (versioned : Bool) (handles : Handles) :
    List Token → Option (Handles × List Token)
  | .version major minor :: rest =>
    if !versioned && major == 1 && (minor == 1 || minor == 2) then
      declarations? true handles rest
    else none
  | .handle name meaning :: rest =>
    if handles.any (·.1 == name) then none
    else declarations? versioned ((name, meaning) :: handles) rest
  | tokens => some (handles ++ standardHandles, tokens)

/-! ## Properties -/

/-- What can stand in front of a node. -/
structure Properties where
  anchor : Option String := none
  tag : Option Tag := none
deriving DecidableEq, Repr

/-- The properties in front of a node and the tokens behind them: a name, a tag, or both. -/
def properties? (handles : Handles) : List Token → Option (Properties × List Token)
  | .anchor name :: .tag handle suffix :: rest
  | .tag handle suffix :: .anchor name :: rest =>
    (handles.tag? handle suffix).map fun tag => ({ anchor := some name, tag := some tag }, rest)
  | .anchor name :: rest => some ({ anchor := some name }, rest)
  | .tag handle suffix :: rest =>
    (handles.tag? handle suffix).map fun tag => ({ tag := some tag }, rest)
  | rest => some ({}, rest)

/-! ## Nodes -/

/-- The tokens that are left, and the ids of the names so far. -/
structure Source where
  tokens : List Token
  names : Dict Nat := .empty

namespace Source

/-- With other tokens left. -/
def left (s : Source) (tokens : List Token) : Source := { s with tokens }

/-- Whether one of some tokens comes next. -/
def sees (s : Source) (tokens : List Token) : Bool := s.tokens.head?.any tokens.contains

/-- Behind a comma. -/
def pastComma? (s : Source) : Option Source :=
  match s.tokens with
  | .comma :: rest => some (s.left rest)
  | _ => none

/-- With one more name. -/
def withName (s : Source) (name : String) : Source :=
  { s with names := s.names.insert name s.names.size }

end Source

/-- A reader of a node. -/
abbrev NodeReader := Source → Option (Yaml × Source)

/-- The node that a reader finds, or an empty one in front of some tokens. -/
def orEmpty (stops : List Token) (read? : NodeReader) (s : Source) : Option (Yaml × Source) :=
  if s.sees stops then some (.empty, s) else read? s

/-- The value behind its mark, and an empty one where there is no mark. -/
def valueOr (stops : List Token) (read? : NodeReader) (s : Source) : Option (Yaml × Source) :=
  match s.tokens with
  | .value :: rest => orEmpty stops read? (s.left rest)
  | _ => some (.empty, s)

/-- The key of a pair in brackets. In front of a mark it is empty, and the mark does not count. -/
def pairKey? (read? : NodeReader) (s : Source) : Option (Yaml × Source) :=
  if s.sees [.value, .comma, .closeBracket] then some (.empty, s.left (s.tokens.drop 1))
  else read? s

/-- A scalar with what stands in front of it. -/
def scalarOf (p : Properties) (style : ScalarStyle) (text : String) : Yaml :=
  .scalar { text, style, tag := p.tag }

mutual

/-- The node at a place, inside or outside flow collections. Items right at the place are one only
if it is a key or a value. `fuel` bounds the number of nested readings. -/
def node? : Nat → Handles → Bool → Bool → NodeReader
  | 0, _, _, _, _ => none
  | fuel + 1, handles, block, indentless, s =>
    match s.tokens with
    | .reference name :: rest => (s.names.get? name).map fun id => (.reference id, s.left rest)
    | tokens => do
      let (p, rest) ← properties? handles tokens
      match p.anchor with
      | none => content? fuel handles block indentless p (s.left rest)
      | some name =>
        let (node, t) ← content? fuel handles block indentless p ((s.left rest).withName name)
        return (.anchored s.names.size node, t)

/-- The node at a place behind its properties. -/
def content? : Nat → Handles → Bool → Bool → Properties → NodeReader
  | 0, _, _, _, _, _ => none
  | fuel + 1, handles, block, indentless, p, s =>
    match s.tokens, block, indentless with
    | .scalar style text :: rest, _, _ => some (scalarOf p style text, s.left rest)
    | .openBracket :: rest, _, _ =>
      (flowItems? fuel handles true (s.left rest)).map fun (items, t) => (.sequence items, t)
    | .openBrace :: rest, _, _ =>
      (flowEntries? fuel handles true (s.left rest)).map fun (entries, t) => (.mapping entries, t)
    | .item :: _, _, true =>
      (blockItems? fuel handles true s).map fun (items, t) => (.sequence items, t)
    | .sequenceStart :: rest, true, _ =>
      (blockItems? fuel handles false (s.left rest)).map fun (items, t) => (.sequence items, t)
    | .mappingStart :: rest, true, _ =>
      (blockEntries? fuel handles (s.left rest)).map fun (entries, t) => (.mapping entries, t)
    | _, _, _ =>
      if p == {} then none else some (.scalar { text := "", tag := p.tag }, s)

/-- The items of a block sequence up to its end. Without indentation, what is no item ends it. -/
def blockItems? : Nat → Handles → Bool → Source → Option (List Yaml × Source)
  | 0, _, _, _ => none
  | fuel + 1, handles, indentless, s =>
    match s.tokens, indentless with
    | .item :: rest, _ => do
      let stops := if indentless then [.item, .key, .value, .blockEnd] else [.item, .blockEnd]
      let (v, s) ← orEmpty stops (node? fuel handles true false) (s.left rest)
      let (vs, s) ← blockItems? fuel handles indentless s
      return (v :: vs, s)
    | .blockEnd :: rest, false => some ([], s.left rest)
    | _, true => some ([], s)
    | _, false => none

/-- The entries of a block mapping up to its end. -/
def blockEntries? : Nat → Handles → Source → Option (List (Yaml × Yaml) × Source)
  | 0, _, _ => none
  | fuel + 1, handles, s =>
    match s.tokens with
    | .key :: rest => do
      let stops := [.key, .value, .blockEnd]
      let (k, s) ← orEmpty stops (node? fuel handles true true) (s.left rest)
      let (v, s) ← valueOr stops (node? fuel handles true true) s
      let (es, s) ← blockEntries? fuel handles s
      return ((k, v) :: es, s)
    | .blockEnd :: rest => some ([], s.left rest)
    | _ => none

/-- The items in brackets up to the closing one. A key with a value is a mapping of its own. -/
def flowItems? : Nat → Handles → Bool → Source → Option (List Yaml × Source)
  | 0, _, _, _ => none
  | fuel + 1, handles, first, s =>
    if s.sees [.closeBracket] then some ([], s.left (s.tokens.drop 1))
    else do
      let s ← if first then some s else s.pastComma?
      match s.tokens with
      | .closeBracket :: rest => return ([], s.left rest)
      | .key :: rest =>
        let (k, s) ← pairKey? (node? fuel handles false false) (s.left rest)
        let (v, s) ← valueOr [.comma, .closeBracket] (node? fuel handles false false) s
        let (vs, s) ← flowItems? fuel handles false s
        return (.mapping [(k, v)] :: vs, s)
      | _ =>
        let (v, s) ← node? fuel handles false false s
        let (vs, s) ← flowItems? fuel handles false s
        return (v :: vs, s)

/-- The entries in braces up to the closing one. A node without a key in front of it is a key. -/
def flowEntries? : Nat → Handles → Bool → Source → Option (List (Yaml × Yaml) × Source)
  | 0, _, _, _ => none
  | fuel + 1, handles, first, s =>
    if s.sees [.closeBrace] then some ([], s.left (s.tokens.drop 1))
    else do
      let s ← if first then some s else s.pastComma?
      match s.tokens with
      | .closeBrace :: rest => return ([], s.left rest)
      | .key :: rest =>
        let stops := [.comma, .closeBrace]
        let (k, s) ← orEmpty (.value :: stops) (node? fuel handles false false) (s.left rest)
        let (v, s) ← valueOr stops (node? fuel handles false false) s
        let (es, s) ← flowEntries? fuel handles false s
        return ((k, v) :: es, s)
      | _ =>
        let (k, s) ← node? fuel handles false false s
        let (es, s) ← flowEntries? fuel handles false s
        return ((k, .empty) :: es, s)

end

/-! ## Documents -/

/-- Whether a token stands between documents. -/
def isBoundary : Token → Bool
  | .version _ _ | .handle _ _ | .documentStart | .documentEnd => true
  | _ => false

/-- The only document of some tokens. Without any tokens it is empty. Behind declarations there must
be its mark, and behind that there may be nothing. -/
def document? (tokens : List Token) : Option Yaml :=
  if tokens.isEmpty then some .empty
  else do
    let (handles, rest) ← declarations? false [] tokens
    let root? := node? (4 * tokens.length + 4) handles true false
    let (root, s) ← match rest with
      | .documentStart :: rest =>
        let s := { tokens := rest }
        if rest.head?.all isBoundary then some (.empty, s) else root? s
      | _ => if rest.length == tokens.length then root? { tokens } else none
    if s.tokens.all (· == .documentEnd) then return root else none

/-- The document of a text. -/
def read? (text : String) : Option Yaml := (tokens? text).bind document?

end PackQuery.Yaml
