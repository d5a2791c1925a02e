import PackQuery.Proofs.Json.RoundTrip
import PackQuery.Proofs.Yaml.Node
import PackQuery.Settings.Exchange

/-!
# Settings as text, there and back

Settings that are shown load back unchanged, as a settings file and as JSON.

**Nodes** (`ofYaml?_outline`). No node that is written stands for another one, so a table is read
member by member. Names and ids are texts in whatever style they are written, truth values are
written plain, and empty tables are written as such.

**Texts** (`read_render`). The node of the table of the settings is what its document is read as.
-/

namespace PackQuery

open Yaml (Outline)

/-! ## Nodes -/

namespace Yaml

variable (root : Yaml)

/-- The members of a table, with the styles of their names. -/
theorem entriesNodes_eq_map (es : List (String × Outline)) :
    entriesNodes es = (es.map fun e => (e.1, e.2.node)).map fun m =>
      (.scalar { text := m.1, style := Style.ofText m.1.toList }, m.2) := by
  induction es with
  | nil => rfl
  | cons e es ih =>
    rw [entriesNodes, ih]
    rfl

/-- A table is read member by member. -/
theorem members?_table (es : List (String × Outline)) :
    root.members? (Outline.table es).node = some (es.map fun e => (e.1, e.2.node)) := by
  have hentries : root.entries? (Outline.table es).node = some (entriesNodes es) := rfl
  have hmembers := Json.mapM_map_eq_some
    (f := fun m : String × Yaml =>
      (Yaml.scalar { text := m.1, style := Style.ofText m.1.toList }, m.2))
    (g := fun m => do return (← root.text? m.1, m.2)) (fun _ => rfl)
    (es.map fun e => (e.1, e.2.node))
  rw [members?, hentries, entriesNodes_eq_map]
  exact hmembers

theorem flag?_bool (b : Bool) : root.flag? (Outline.bool b).node = some b := by
  cases b <;> rfl

/-- A dictionary is read back from its table. -/
theorem dict?_ofDict (d : Dict String) : root.dict? (Outline.ofDict d).node = some d := by
  have hpairs := Json.mapM_map_eq_some
    (f := fun p : String × String => (p.1, (Outline.text p.2).node))
    (g := fun m => do return (m.1, ← root.text? m.2)) (fun _ => rfl) d.entries
  rw [dict?, Outline.ofDict, members?_table, List.map_map]
  exact (congrArg (·.bind fun pairs => some (Dict.ofList pairs)) hpairs).trans
    (congrArg some (Dict.empty_overlay d))

theorem format?_name (f : OutputFormat) : root.format? (Outline.text f.name).node = some f := by
  cases f <;> rfl

end Yaml

namespace Settings

variable (s : Settings)

/-- **Settings are read back from the node of their table.** -/
theorem ofYaml?_outline : ofYaml? (Outline.table s.outline).node = some s := by
  generalize hroot : (Outline.table s.outline).node = root
  have hmembers := Yaml.members?_table root s.outline
  rw [hroot] at hmembers
  rw [ofYaml?, Yaml.fields?, hmembers]
  simp [outline, MatchingSettings.ofYaml?, VendorSettings.ofYaml?, OutputSettings.ofYaml?,
    Yaml.fields?, Yaml.field?, Yaml.fieldOr, Yaml.members?_table, Yaml.flag?_bool,
    Yaml.dict?_ofDict, Yaml.format?_name]

/-! ## Members -/

theorem toJson_isTextual : s.toJson.IsTextual := by
  simp [toJson, Json.IsTextual.record, Json.IsTextual.bool, Json.IsTextual.text,
    Json.ofDict_isTextual]

/-- Settings are read back from their JSON. -/
theorem ofJson?_toJson : ofJson? s.toJson = some s := by
  have hbool : ∀ b, (Json.bool b).bool? = some b := fun _ => rfl
  have hformat : (Json.text s.output.format.name).text?.bind OutputFormat.ofName? =
      some s.output.format := by
    cases s.output.format <;> rfl
  simp [toJson, ofJson?, MatchingSettings.ofJson?, VendorSettings.ofJson?, OutputSettings.ofJson?,
    Json.fields?, Json.record, Json.field?, Json.fieldOr, Json.dict?_ofDict, hbool, hformat]

/-! ## Texts -/

/-- **Settings that are shown load back unchanged**, whatever texts they hold: as a settings file
and as JSON. -/
theorem read_render (s : Settings) :
    read (s.render .text) = .ok s ∧ readJson (s.render .json) = .ok s := by
  constructor
  · have hread : Yaml.read? (s.render .text) = some (Outline.table s.outline).node :=
      Yaml.read?_document _ _
    rw [read, hread, Option.bind_some, ofYaml?_outline]
  · have hread : Json.read? (s.render .json) = some s.toJson := s.toJson_isTextual.read?_pretty
    rw [readJson, hread, Option.bind_some, ofJson?_toJson]

end Settings

end PackQuery
