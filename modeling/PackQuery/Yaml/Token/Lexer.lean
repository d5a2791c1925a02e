import PackQuery.Yaml.Scalar.Block
import PackQuery.Yaml.Scalar.Plain
import PackQuery.Yaml.Scalar.Quoted
import PackQuery.Yaml.Token.Directive

/-!
# Reading tokens

A lexer goes through a text token by token. Outside flow collections it knows the columns of the
open block collections: a token further left closes them, and the mark of an item or a key further
right opens one. Inside brackets and braces columns do not count.

**Keys.** That a node is a key shows only at the colon behind it. So the place of a node in front of
which a key may start is kept as a candidate, and when the colon comes, a token goes in there. A
candidate is lost in the next line and behind 1024 bytes, and in every flow collection there is one
of its own. Where a line starts in the column of a mapping there must be a key.

**Where keys may start.** Block collections and their keys start at the start of a line or behind
the marks of items and explicit keys; in flow collections keys start behind opening marks and
commas.
-/

namespace PackQuery.Yaml

/-! ## Candidates for keys -/

/-- The place of a node that may turn out to be a key. -/
structure Candidate where
  /-- How many tokens stand in front of it. -/
  position : Nat
  start : Cursor
  /-- Whether it must be a key. -/
  required : Bool
deriving DecidableEq, Repr

namespace Candidate

/-- The most bytes between the start of a key and its colon. -/
def longest : Nat := 1024

/-- Whether the colon of the key can stand at a place no more. -/
def isStale (k : Candidate) (c : Cursor) : Bool :=
  k.start.line != c.line || k.start.width + longest < c.width

/-- What is left of a candidate at a place; there must not be a required one that is lost. -/
def keep? (c : Cursor) : Option Candidate → Option (Option Candidate)
  | some k => if !k.isStale c then some (some k) else if k.required then none else some none
  | none => some none

end Candidate

/-! ## The state of a lexer -/

/-- A place in a text, and what has been read in front of it. -/
structure Lexer where
  place : Cursor
  /-- The tokens, the last one first. -/
  tokens : List Token := []
  /-- The columns of the open block collections, the innermost one first. -/
  columns : List Nat := []
  /-- Whether a key may start at the place. -/
  fresh : Bool := true
  /-- The last node that may turn out to be a key. -/
  candidate : Option Candidate := none
  /-- The same for what stands around each open flow collection, the innermost one first. -/
  outer : List (Option Candidate) := []
deriving Repr

namespace Lexer

/-- Whether the place is inside a flow collection. -/
def inFlow (l : Lexer) : Bool := !l.outer.isEmpty

/-- The least column of what belongs to the innermost block collection. -/
def indent (l : Lexer) : Nat :=
  match l.columns with
  | [] => 0
  | column :: _ => column + 1

/-- Behind a token, at a place where a key may or may not start. -/
def read (l : Lexer) (t : Token) (place : Cursor) (fresh : Bool) : Lexer :=
  { l with tokens := t :: l.tokens, place, fresh }

/-- Behind a token of one character. -/
def readMark (l : Lexer) (t : Token) (fresh : Bool) : Lexer := l.read t (l.place.past 1) fresh

/-- With one more token at a position. -/
def insert (l : Lexer) (t : Token) (position : Nat) : Lexer :=
  let later := l.tokens.length - position
  { l with tokens := l.tokens.take later ++ t :: l.tokens.drop later }

/-! ## Block collections -/

/-- With the block collections from a column on closed. -/
def closeFrom (l : Lexer) (column : Nat) : Lexer :=
  if l.inFlow then l
  else
    let closed := l.columns.takeWhile (column ≤ ·)
    { l with columns := l.columns.drop closed.length
             tokens := List.replicate closed.length .blockEnd ++ l.tokens }

/-- With a block collection open in a column; its token goes to a position if it is a new one. -/
def openAt (l : Lexer) (t : Token) (column position : Nat) : Lexer :=
  if l.inFlow || l.columns.head?.any (column ≤ ·) then l
  else { l.insert t position with columns := column :: l.columns }

/-- With a block collection open in the column of the place, where one may start. -/
def openHere? (l : Lexer) (t : Token) : Option Lexer :=
  if l.inFlow then some l
  else if l.fresh then some (l.openAt t l.place.column l.tokens.length)
  else none

/-! ## Keys -/

/-- Without a candidate, which must not be required. -/
def settle? (l : Lexer) : Option Lexer :=
  if l.candidate.any (·.required) then none else some { l with candidate := none }

/-- With the node at the place as a candidate, if a key may start there. -/
def propose? (l : Lexer) : Option Lexer := do
  if l.fresh then
    let l ← l.settle?
    let required := !l.inFlow && l.columns.head? == some l.place.column
    return { l with candidate := some { position := l.tokens.length, start := l.place, required } }
  else return l

/-- Without the candidates that are lost. -/
def keep? (l : Lexer) : Option Lexer := do
  return { l with candidate := ← Candidate.keep? l.place l.candidate
                  outer := ← l.outer.mapM (Candidate.keep? l.place) }

/-! ## Tokens -/

/-- Behind a directive. Its line end does not allow a key. -/
def directive? (l : Lexer) : Option Lexer := do
  let l ← (l.closeFrom 0).settle?
  let (t, place) ← Yaml.directive? l.place
  return l.read t place false

/-- Behind the mark of the start or the end of a document. -/
def boundary? (l : Lexer) (t : Token) : Option Lexer := do
  let l ← (l.closeFrom 0).settle?
  return l.read t (l.place.past 3) false

/-- Behind the mark that opens a flow collection. -/
def openFlow? (l : Lexer) (t : Token) : Option Lexer := do
  let l ← l.propose?
  return { l.readMark t true with candidate := none, outer := l.candidate :: l.outer }

/-- Behind the mark that closes a flow collection. -/
def closeFlow? (l : Lexer) (t : Token) : Option Lexer := do
  let l := (← l.settle?).readMark t false
  match l.outer with
  | [] => return l
  | candidate :: outer => return { l with candidate, outer }

/-- Behind a comma. -/
def comma? (l : Lexer) : Option Lexer := do return (← l.settle?).readMark .comma true

/-- Behind the mark of an item. -/
def item? (l : Lexer) : Option Lexer := do
  return (← (← l.openHere? .sequenceStart).settle?).readMark .item true

/-- Behind the mark of an explicit key. -/
def key? (l : Lexer) : Option Lexer := do
  return (← (← l.openHere? .mappingStart).settle?).readMark .key !l.inFlow

/-- Behind a colon. If there is a candidate, it is the key. -/
def value? (l : Lexer) : Option Lexer :=
  match l.candidate with
  | some k =>
    let l := (l.insert .key k.position).openAt .mappingStart k.start.column k.position
    some { l.readMark .value false with candidate := none }
  | none => (l.openHere? .mappingStart).map (·.readMark .value !l.inFlow)

/-- Behind a token that belongs to a node, which may turn out to be a key. -/
def node? (l : Lexer) (read? : Cursor → Option (Token × Bool × Cursor)) : Option Lexer := do
  let l ← l.propose?
  let (t, fresh, place) ← read? l.place
  return l.read t place fresh

/-- Behind a block scalar. -/
def block? (l : Lexer) : Option Lexer := do
  let l ← l.settle?
  let (style, text, place) ← Block.read? l.indent l.place
  return l.read (.scalar style text) place true

/-- Behind a plain scalar. -/
def plain? (l : Lexer) : Option Lexer :=
  if Plain.starts l.inFlow l.place.rest then
    l.node? fun c => (Plain.read? l.inFlow l.indent c).map fun (text, broken, d) =>
      (.scalar .plain text, broken, d)
  else none

/-- Behind the token that starts with a character. -/
def token? (l : Lexer) (first : Char) : Option Lexer :=
  let marks := isBlankAhead (l.place.rest.drop 1)
  match first with
  | '[' => l.openFlow? .openBracket
  | '\x7b' => l.openFlow? .openBrace
  | ']' => l.closeFlow? .closeBracket
  | '\x7d' => l.closeFlow? .closeBrace
  | ',' => l.comma?
  | '-' => if marks then l.item? else l.plain?
  | '?' => if l.inFlow || marks then l.key? else l.plain?
  | ':' => if l.inFlow || marks then l.value? else l.plain?
  | '&' => l.node? fun c => (name? c).map fun (name, d) => (.anchor name, false, d)
  | '*' => l.node? fun c => (name? c).map fun (name, d) => (.reference name, false, d)
  | '!' => l.node? fun c => (tag? l.inFlow c).map fun (tag, d) => (tag, false, d)
  | '\'' | '"' => l.node? fun c => (Quoted.read? c).map fun (style, text, d) =>
    (.scalar style text, false, d)
  | '|' | '>' => if l.inFlow then none else l.block?
  | _ => l.plain?

/-! ## Texts -/

/-- In front of the next token. -/
def next? (l : Lexer) : Option Lexer := do
  let (place, fresh) := l.place.skip l.inFlow l.fresh
  let l ← { l with place, fresh }.keep?
  return l.closeFrom (place.column + 1)

/-- The tokens of a text; every one takes characters away, and `fuel` is more than there are. -/
def run : Nat → Lexer → Option (List Token)
  | 0, _ => none
  | fuel + 1, l => do
    let l ← l.next?
    match l.place.rest with
    | [] => return (← (l.closeFrom 0).settle?).tokens.reverse
    | first :: _ =>
      if l.place.column == 0 && first == '%' then run fuel (← l.directive?)
      else if l.place.atStart then run fuel (← l.boundary? .documentStart)
      else if l.place.atStop then run fuel (← l.boundary? .documentEnd)
      else run fuel (← l.token? first)

end Lexer

/-- The tokens of a text. -/
def tokens? (text : String) : Option (List Token) :=
  let s := text.toList
  if s.all isAllowed then
    let s := normalize s
    Lexer.run (s.length + 1) { place := { rest := s } }
  else none

end PackQuery.Yaml
