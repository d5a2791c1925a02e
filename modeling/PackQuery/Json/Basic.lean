import PackQuery.Dict

/-!
# JSON values

Members of an object keep their order, and a key may occur more than once: what that means is for
the reader of the object to say. A string literal can escape one half of a surrogate pair without
the other half; such a literal denotes no text, and `none` stands for it.

**Records.** A record with named fields is read from an object, or from an array of the fields in
order. Members that name no field do not count, a field that is named twice makes the object
invalid, and so does an array with more values than fields. A field that is left out is `none`.
-/

namespace PackQuery

/-- A JSON value. -/
inductive Json where
  | null
  | bool (b : Bool)
  /-- A number, as its literal. -/
  | number (literal : String)
  | string (text : Option String)
  | array (values : List Json)
  | object (members : List (Option String × Json))
deriving Inhabited

namespace Json

/-- A text. -/
def text (s : String) : Json := string (some s)

/-- An integer. -/
def int (n : Int) : Json := number (toString n)

/-- A text, or null. -/
def optionalText : Option String → Json
  | some s => text s
  | none => null

/-- An array of texts. -/
def texts (l : List String) : Json := array (l.map text)

/-- An object with the given members. -/
def record (members : List (String × Json)) : Json :=
  object (members.map fun (k, v) => (some k, v))

/-- An object with the entries of a dictionary. -/
def ofDict (d : Dict String) : Json := record (d.entries.map fun (k, v) => (k, text v))

/-! ## Taking values apart -/

/-- The text of a string. -/
def text? : Json → Option String
  | string s => s
  | _ => none

/-- The truth value of a literal. -/
def bool? : Json → Option Bool
  | bool b => some b
  | _ => none

/-- A text, or nothing for null. -/
def optionalText? : Json → Option (Option String)
  | null => some none
  | v => v.text?.map some

/-- The dictionary of an object whose values are texts; the last member of a key counts. -/
def dict? : Json → Option (Dict String)
  | object members => do
    let pairs ← members.mapM fun (k, v) => do return (← k, ← v.text?)
    return .ofList pairs
  | _ => none

/-- The value of a key in an object, if at most one member has the key. -/
def field? (members : List (Option String × Json)) (name : String) : Option (Option Json) :=
  match members.filter fun m => m.1 == some name with
  | [] => some none
  | [m] => some (some m.2)
  | _ => none

/-- The values of the fields of a record. -/
def fields? (names : List String) : Json → Option (List (Option Json))
  | object members => do
    if members.all fun m => m.1.isSome then names.mapM (field? members) else none
  | array values =>
    if values.length ≤ names.length then
      some (values.map some ++ List.replicate (names.length - values.length) none)
    else none
  | _ => none

/-- A field read by a reader, with a default for a field that is left out. -/
def fieldOr {α : Type} (default : α) (read : Json → Option α) : Option Json → Option α
  | none => some default
  | some v => read v

end Json

end PackQuery
