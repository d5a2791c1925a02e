import PackQuery.Catalog
import PackQuery.Json.Reader
import PackQuery.Json.Printer

/-!
# Attributes as arguments and as JSON

An argument `name=value` gives an attribute its value. The name ends at the first equals sign and
is trimmed; the value is taken as it stands and may be empty. Of several arguments for one name
the last one counts.

In JSON an attribute set is a record with the fields `tag` and `attributes`; a missing tag is left
out. A catalog is the array of its entries. What is written is read back as the same value.
-/

namespace PackQuery

/-! ## Arguments -/

namespace Assignment

/-- The name and the value of an argument. -/
def read (text : String) : Except Failure (String × String) :=
  let name := Text.trimChars (Chars.before '=' text.toList)
  match Chars.after? '=' text.toList with
  | some value =>
    if name.isEmpty then .error (.argument text)
    else .ok (String.ofList name, String.ofList value)
  | none => .error (.argument text)

/-- The attribute set of some arguments, or the first argument that is none and its failure. -/
def readSet (tag : Option String) (texts : List String) :
    Except (String × Failure) AttributeSet :=
  go { tag := tag } texts
where
  /-- The arguments on top of a set. -/
  go (s : AttributeSet) : List String → Except (String × Failure) AttributeSet
    | [] => .ok s
    | text :: rest =>
      match read text with
      | .ok (name, value) => go (s.set name value).1 rest
      | .error failure => .error (text, failure)

/-- The messages of an argument that is none, from the outermost context to the cause. -/
def failureChain (e : String × Failure) : List String :=
  ["in argument '" ++ e.1 ++ "'", e.2.message] ++ e.2.cause?.toList

end Assignment

/-! ## JSON -/

/-- An attribute set as JSON. -/
def AttributeSet.toJson (s : AttributeSet) : Json :=
  .record ((match s.tag with
    | some tag => [("tag", .text tag)]
    | none => []) ++ [("attributes", .ofDict s.attributes)])

/-- The attribute set that JSON describes. -/
def AttributeSet.ofJson? (v : Json) : Option AttributeSet := do
  match ← v.fields? ["tag", "attributes"] with
  | [tag, attributes] =>
    let tag ← Json.fieldOr none Json.optionalText? tag
    let attributes ← Json.fieldOr .empty Json.dict? attributes
    return ⟨tag, attributes⟩
  | _ => none

/-- A catalog as JSON. -/
def Catalog.toJson (c : Catalog) : Json := .array (c.entries.map AttributeSet.toJson)

/-- The catalog that JSON describes. -/
def Catalog.ofJson? : Json → Option Catalog
  | .array entries => (entries.mapM AttributeSet.ofJson?).map Catalog.mk
  | _ => none

/-- The attribute set of a JSON text. -/
def AttributeSet.read (s : String) : Except Failure AttributeSet :=
  match (Json.read? s).bind AttributeSet.ofJson? with
  | some set => .ok set
  | none => .error .json

/-- The catalog of a JSON text. -/
def Catalog.read (s : String) : Except Failure Catalog :=
  match (Json.read? s).bind Catalog.ofJson? with
  | some catalog => .ok catalog
  | none => .error .json

end PackQuery
