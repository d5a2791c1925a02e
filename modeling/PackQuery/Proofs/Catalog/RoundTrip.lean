import PackQuery.Attributes.Assignment
import PackQuery.Proofs.Json.RoundTrip

/-!
# Catalogs as JSON, there and back

What is written for a catalog is read as the catalog, so nothing is lost between two tools.

**Entries** (`ofJson?_toJson`). A missing tag is left out, and a field that is left out is read as
missing; attributes are written also if there are none.

**Texts** (`read_of_read?`). Entries hold texts only, so their JSON is read back from its text in
every layout. A text may describe a catalog in other shapes than the written one, such as lists of
fields; writing the catalog again changes the shape and nothing else.
-/

namespace PackQuery

/-! ## Entries -/

namespace AttributeSet

theorem toJson_isTextual (s : AttributeSet) : s.toJson.IsTextual := by
  refine .record fun m hm => ?_
  rcases List.mem_append.mp hm with hm | hm
  · cases htag : s.tag with
    | none =>
      rw [htag] at hm
      cases hm
    | some tag =>
      rw [htag, List.mem_singleton] at hm
      exact hm ▸ .text tag
  · rw [List.mem_singleton] at hm
    exact hm ▸ Json.ofDict_isTextual s.attributes

/-- **An attribute set is read back from its JSON.** -/
theorem ofJson?_toJson (s : AttributeSet) : ofJson? s.toJson = some s := by
  obtain ⟨tag, attributes⟩ := s
  cases tag with
  | none =>
    simp [ofJson?, toJson, Json.fields?, Json.record, Json.field?, Json.fieldOr,
      Json.dict?_ofDict]
  | some tag =>
    have htag : (Json.text tag).optionalText? = some (some tag) := rfl
    simp [ofJson?, toJson, Json.fields?, Json.record, Json.field?, Json.fieldOr,
      Json.dict?_ofDict, htag]

end AttributeSet

/-! ## Catalogs -/

namespace Catalog

theorem toJson_isTextual (c : Catalog) : c.toJson.IsTextual := by
  refine .array fun v hv => ?_
  obtain ⟨entry, -, rfl⟩ := List.mem_map.mp hv
  exact entry.toJson_isTextual

theorem ofJson?_toJson (c : Catalog) : ofJson? c.toJson = some c := by
  rw [toJson, ofJson?, Json.mapM_map_eq_some AttributeSet.ofJson?_toJson]
  rfl

/-- A text that holds the JSON of a catalog is read as the catalog. -/
theorem read_of_read? {text : String} {c : Catalog} (h : Json.read? text = some c.toJson) :
    read text = .ok c := by
  rw [read, h, Option.bind_some, ofJson?_toJson]

/-- **Catalogs survive being written and read.** The JSON of a catalog describes it, and so do its
texts over several lines and on one line. So writing what was read from a text and reading it again
gives what was read. -/
theorem read_toJson :
    (∀ c : Catalog, ofJson? c.toJson = some c ∧ read c.toJson.pretty = .ok c ∧
        read c.toJson.compact = .ok c) ∧
      ∀ (text : String) (c : Catalog), read text = .ok c →
        read c.toJson.pretty = read text ∧ read c.toJson.compact = read text := by
  have hpretty : ∀ c : Catalog, read c.toJson.pretty = .ok c :=
    fun c => read_of_read? c.toJson_isTextual.read?_pretty
  have hcompact : ∀ c : Catalog, read c.toJson.compact = .ok c :=
    fun c => read_of_read? c.toJson_isTextual.read?_compact
  refine ⟨fun c => ⟨c.ofJson?_toJson, hpretty c, hcompact c⟩, fun text c h => ?_⟩
  rw [h]
  exact ⟨hpretty c, hcompact c⟩

/-- A list of fields, a key that is repeated, a tag of null and an escaped surrogate pair. -/
theorem read_toJson_shapes :
    let text :=
      "[[\"api\",\x7b\"a\":\"b\",\"a\":\"\\ud83d\\ude00\"\x7d],\x7b\"tag\":null\x7d]"
    let c : Catalog := ⟨[⟨some "api", .ofList [("a", "😀")]⟩, ⟨none, .empty⟩]⟩
    read text = .ok c ∧ read c.toJson.compact = read text ∧ read c.toJson.pretty = read text := by
  intro text c
  have hvalue : (Json.read? text).bind ofJson? = some c := by decide +kernel
  have hread : read text = .ok c := by rw [read, hvalue]
  obtain ⟨hpretty, hcompact⟩ := read_toJson.2 text c hread
  exact ⟨hread, hcompact, hpretty⟩

end Catalog

end PackQuery
