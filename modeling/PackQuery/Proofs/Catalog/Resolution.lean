import PackQuery.Catalog
import PackQuery.Proofs.Attributes.Component
import PackQuery.Proofs.Version.Range
import PackQuery.Proofs.Version.Selection

/-!
# Resolving a component

A component is resolved in two steps: the filter without its component version leaves some
candidates, and a version filter selects one of their versions. The text of that version is then
looked up among the candidates.

**Ranges** (`resolve_range`). Looking the text up gives the candidate that was selected, and not
another one with the same version in another spelling (`find?_map_bind`). So if all components
have a version, to resolve one by a range is the same as to search the catalog with the range as
a demand on the component version and to take the first of the highest components found.

**Versions of the filter** (`resolve_filter_versions`). The component version of the filter does
not count. Its interface version does: it narrows the candidates to those that implement no
interface or an admitted version of one.
-/

namespace PackQuery.Catalog

/-! ## Candidates -/

/-- The components that a filter leaves, whatever their versions. -/
def candidates (c : Catalog) (filter : AttributeSet) : List Placed :=
  c.components (filter.remove Key.componentVersion).1

theorem resolve_eq (c : Catalog) (filter : AttributeSet) (versionFilter : String)
    (compatible : Bool) :
    c.resolve filter versionFilter compatible =
      (Version.Selection.select compatible versionFilter
        ((c.candidates filter).map fun p => p.1.version)).bind fun selected =>
          (c.candidates filter).find? fun p => p.1.version = selected := rfl

theorem mem_entries_of_mem_placed {c : Catalog} {p : Placed} (h : p ∈ c.placed) :
    p.1 ∈ c.entries :=
  List.fst_mem_of_mem_zipIdx h

theorem isComponent_iff {filter entry : AttributeSet} :
    isComponent filter entry = true ↔
      entry.isApi = false ∧ entry.contains Key.classification = true ∧
        entry.passesComponent filter = true := by
  simp [isComponent, and_assoc]

/-! ## Ranges -/

/-- Whether every component has a component version. -/
def IsVersioned (c : Catalog) : Prop :=
  ∀ entry ∈ c.entries, entry.isApi = false → entry.contains Key.classification = true →
    entry.get Key.componentVersion ≠ ""

/-- Looking up the text that a search finds gives the member that has it: the first one with that
text is also the first one found. -/
theorem find?_map_bind {α : Type} (l : List α) (text : α → String) (test : String → Bool) :
    (((l.map text).find? test).bind fun s => l.find? fun x => text x = s) =
      l.find? fun x => test (text x) := by
  rw [List.find?_map]
  cases hfind : l.find? (test ∘ text) with
  | none => exact hfind.symm
  | some x =>
    obtain ⟨htest, before, after, hl, hbefore⟩ := List.find?_eq_some_iff_append.mp hfind
    have hsame : l.find? (fun y => text y = text x) = some x := by
      refine List.find?_eq_some_iff_append.mpr ⟨by simp, before, after, hl, fun y hy => ?_⟩
      have hy' := hbefore y hy
      rw [Bool.not_eq_true', decide_eq_false_iff_not]
      intro he
      simp [he, Function.comp_apply ▸ htest] at hy'
    exact hsame.trans hfind.symm

/-- With a range the candidate itself is selected. -/
theorem resolve_eq_find? (c : Catalog) (filter : AttributeSet) {range : String}
    (compatible : Bool) (hrange : '@' ∉ range.toList) :
    c.resolve filter range compatible =
      (c.candidates filter).find? fun p => Version.Selection.IsHighest compatible range
        ((c.candidates filter).map fun p => p.1.version) p.1.version := by
  rw [resolve_eq, Version.Selection.select_of_not_mem compatible _ hrange,
    Version.Selection.highestInRange_eq_find?, find?_map_bind]

/-- A range as a demand on the component version leaves the candidates inside it. -/
theorem components_set_version {c : Catalog} (hc : c.IsVersioned) (filter : AttributeSet)
    (range : String) :
    c.components (filter.set Key.componentVersion range).1 =
      (c.candidates filter).filter fun p => Version.Range.admits false range p.1.version := by
  have hname : Key.isComponent Key.componentVersion = true := by decide
  unfold candidates components select
  rw [List.filter_filter]
  refine List.filter_congr fun p hp => ?_
  rw [Bool.eq_iff_iff, Bool.and_eq_true, isComponent_iff, isComponent_iff,
    AttributeSet.passesComponent_set hname]
  constructor
  · rintro ⟨happ, hclass, hpass, hmeets⟩
    have hversion := hc p.1 (mem_entries_of_mem_placed hp) happ hclass
    rw [AttributeSet.meets_componentVersion happ hversion] at hmeets
    exact ⟨hmeets, happ, hclass, hpass⟩
  · rintro ⟨hadmits, happ, hclass, hpass⟩
    have hversion := hc p.1 (mem_entries_of_mem_placed hp) happ hclass
    rw [← AttributeSet.meets_componentVersion happ hversion] at hadmits
    exact ⟨happ, hclass, hpass, hadmits⟩

/-- The first of the highest members inside a range is the first of the highest among those that
are inside. -/
theorem find?_isHighest {α : Type} (l : List α) (version : α → String) (compatible : Bool)
    (range : String) :
    (l.find? fun x => Version.Selection.IsHighest compatible range (l.map version) (version x)) =
      (l.filter fun x => Version.Range.admits compatible range (version x)).find? fun x =>
        ∀ y ∈ l.filter fun y => Version.Range.admits compatible range (version y),
          Version.compare true (version y) (version x) ≤ 0 := by
  rw [List.find?_filter]
  refine congrArg (l.find? ·) (funext fun x => ?_)
  rw [decide_eq_decide]
  simp [Version.Selection.IsHighest, Version.Selection.admits_iff]

/-- Nothing is resolved only if no candidate is inside the range. -/
theorem resolve_eq_none_iff (c : Catalog) (filter : AttributeSet) {range : String}
    (compatible : Bool) (hrange : '@' ∉ range.toList) :
    c.resolve filter range compatible = none ↔
      ((c.candidates filter).filter fun p =>
        Version.Range.admits compatible range p.1.version) = [] := by
  have hselected := Version.Selection.highestInRange_eq_find? compatible range
    ((c.candidates filter).map fun p => p.1.version)
  rw [List.find?_map, Function.comp_def, ← resolve_eq_find? c filter compatible hrange]
    at hselected
  rw [← Option.map_eq_none_iff, ← hselected,
    Version.Selection.highestInRange_eq_none_iff, List.forall_mem_map, List.filter_eq_nil_iff]
  simp only [Version.Selection.admits_iff, ne_eq]

/-- **Resolving by a range is searching with the range** as a demand on the component version:
the first of the highest components found is resolved, and nothing only if none is found. -/
theorem resolve_range {c : Catalog} (filter : AttributeSet) {range : String}
    (hc : c.IsVersioned) (hrange : '@' ∉ range.toList) :
    let found := c.components (filter.set Key.componentVersion range).1
    (c.resolve filter range false = none ↔ found = []) ∧
      c.resolve filter range false = found.find? fun e =>
        ∀ d ∈ found, Version.compare true d.1.version e.1.version ≤ 0 := by
  intro found
  have hfound : found = (c.candidates filter).filter fun p =>
      Version.Range.admits false range p.1.version := components_set_version hc filter range
  rw [hfound]
  refine ⟨resolve_eq_none_iff c filter false hrange, ?_⟩
  rw [resolve_eq_find? c filter false hrange]
  exact find?_isHighest (c.candidates filter) (fun p => p.1.version) false range

/-- A device component of a version. -/
def device (version : String) : AttributeSet :=
  .ofPairs [(Key.classification, "Device"), (Key.componentVersion, version)]

/-- Two spellings of the highest version inside the range, between a lower one and one outside,
and an interface without a component version. The version of the filter does not count. -/
theorem resolve_range_spellings :
    let c : Catalog :=
      ⟨[device "1.0", device "2.0", .tagged "api", device "2.0.0", device "3.0"]⟩
    c.resolve (device "7.0") "1.0:2.9" false =
        (c.components ((device "7.0").set Key.componentVersion "1.0:2.9").1).find? (fun e =>
          ∀ d ∈ c.components ((device "7.0").set Key.componentVersion "1.0:2.9").1,
            Version.compare true d.1.version e.1.version ≤ 0) ∧
      c.resolve (device "7.0") "1.0:2.9" false = some (device "2.0", 1) := by
  intro c
  have hc : c.IsVersioned := by
    unfold IsVersioned
    decide +kernel
  have h := @resolve_range c (device "7.0") "1.0:2.9" hc (by decide)
  exact ⟨h.2, by decide +kernel⟩

/-! ## Versions of the filter -/

/-- Whether two filters differ in versions only. -/
def SameButVersions (f f' : AttributeSet) : Prop :=
  ∀ name, Key.isVersion name = false → f.get? name = f'.get? name

/-- Without its component version a filter lets through what passes without its interface version
too, and implements no interface or an admitted version of one. -/
theorem passesComponent_remove_version (entry filter : AttributeSet) :
    entry.passesComponent (filter.remove Key.componentVersion).1 = true ↔
      entry.passesComponent
          ((filter.remove Key.componentVersion).1.remove Key.apiVersion).1 = true ∧
        ∀ v, entry.get? Key.apiVersion = some v → filter.AdmitsInterface v := by
  have hname : Key.isComponent Key.apiVersion = true := by decide
  have hne : Key.apiVersion ≠ Key.componentVersion := by decide
  have hget : (filter.remove Key.componentVersion).1.get? Key.apiVersion =
      filter.get? Key.apiVersion := by
    rw [AttributeSet.get?_remove, if_neg hne]
  rw [AttributeSet.passesComponent_iff_remove hname, hget, AttributeSet.meets_interface_iff]

theorem passesComponent_congr_versions {f f' : AttributeSet} (h : SameButVersions f f')
    (entry : AttributeSet) :
    entry.passesComponent ((f.remove Key.componentVersion).1.remove Key.apiVersion).1 =
      entry.passesComponent ((f'.remove Key.componentVersion).1.remove Key.apiVersion).1 := by
  refine AttributeSet.passesComponent_congr (fun name => ?_) entry
  simp only [AttributeSet.get?_remove]
  split_ifs with hapi hversion
  · rfl
  · rfl
  · exact h name (by simp [Key.isVersion, hapi, hversion])

/-- Whether two filters admit the same versions of the interfaces that the components of a
catalog implement. -/
def AgreeOnInterfaces (c : Catalog) (f f' : AttributeSet) : Prop :=
  ∀ entry ∈ c.entries, entry.isApi = false → entry.contains Key.classification = true →
    ∀ v, entry.get? Key.apiVersion = some v → (f.AdmitsInterface v ↔ f'.AdmitsInterface v)

theorem candidates_congr {c : Catalog} {f f' : AttributeSet} (h : SameButVersions f f')
    (hc : c.AgreeOnInterfaces f f') : c.candidates f = c.candidates f' := by
  refine List.filter_congr fun p hp => ?_
  rw [Bool.eq_iff_iff, isComponent_iff, isComponent_iff]
  refine and_congr_right fun happ => and_congr_right fun hclass => ?_
  rw [passesComponent_remove_version, passesComponent_remove_version,
    passesComponent_congr_versions h]
  refine and_congr_right fun _ => forall_congr' fun v => forall_congr' fun hv => ?_
  exact hc p.1 (mem_entries_of_mem_placed hp) happ hclass v hv

/-- **Filters resolve alike** if they differ in versions only and admit the same interfaces. -/
theorem resolve_congr {c : Catalog} {f f' : AttributeSet} (h : SameButVersions f f')
    (hc : c.AgreeOnInterfaces f f') (versionFilter : String) (compatible : Bool) :
    c.resolve f versionFilter compatible = c.resolve f' versionFilter compatible := by
  rw [resolve_eq, resolve_eq, candidates_congr h hc]

/-- A component with all that a filter asks for, which implements a version of an interface. -/
def implementation (filter : AttributeSet) (v : String) : AttributeSet :=
  { attributes := (filter.attributes.insert Key.classification
      (filter.get Key.classification)).insert Key.apiVersion v }

theorem get?_implementation (filter : AttributeSet) (v name : String) :
    (implementation filter v).get? name =
      if name = Key.apiVersion then some v
      else if name = Key.classification then some (filter.get Key.classification)
      else filter.get? name := by
  simp [implementation, AttributeSet.get?]

/-- It meets all demands but the one on the interface version. -/
theorem passesComponent_implementation {f f' : AttributeSet} (h : SameButVersions f f')
    (v : String) :
    (implementation f v).passesComponent
      ((f'.remove Key.componentVersion).1.remove Key.apiVersion).1 = true := by
  rw [← passesComponent_congr_versions h, AttributeSet.passesComponent_iff]
  intro name wanted hwanted _
  rw [AttributeSet.get?_remove, AttributeSet.get?_remove] at hwanted
  split_ifs at hwanted with hapi hversion
  refine AttributeSet.meets_self ?_ (by simp [Key.isVersion, hapi, hversion])
  rw [get?_implementation, if_neg hapi]
  split_ifs with hclass
  · rw [AttributeSet.get, ← hclass, hwanted]
    rfl
  · exact hwanted

theorem isComponent_implementation {f f' : AttributeSet} (h : SameButVersions f f')
    (v : String) :
    isComponent (f'.remove Key.componentVersion).1 (implementation f v) = true ↔
      f'.AdmitsInterface v := by
  have hclass : (implementation f v).contains Key.classification = true := by
    show ((implementation f v).get? Key.classification).isSome = true
    rw [get?_implementation]
    rfl
  have hapi : (implementation f v).get? Key.apiVersion = some v := by
    rw [get?_implementation, if_pos rfl]
  rw [isComponent_iff, passesComponent_remove_version]
  constructor
  · rintro ⟨-, -, -, hadmits⟩
    exact hadmits v hapi
  · intro hadmits
    refine ⟨rfl, hclass, passesComponent_implementation h v, fun w hw => ?_⟩
    rw [hapi] at hw
    exact Option.some_inj.mp hw ▸ hadmits

theorem resolve_singleton (entry filter : AttributeSet) :
    (⟨[entry]⟩ : Catalog).resolve filter "" false =
      if isComponent (filter.remove Key.componentVersion).1 entry = true then some (entry, 0)
      else none := by
  have hcandidates : (⟨[entry]⟩ : Catalog).candidates filter =
      if isComponent (filter.remove Key.componentVersion).1 entry = true then [(entry, 0)]
      else [] := by
    simp [candidates, components, select, placed, List.filter_cons]
  have hself := (Version.compare_isScaledOrder true).self entry.version
  rw [resolve_eq_find? _ _ _ (by decide), hcandidates]
  split_ifs
  · simp [Version.Selection.IsHighest, Version.Range.locate_empty, hself]
  · rfl

theorem agreeOnInterfaces_of_forall (c : Catalog) {f f' : AttributeSet}
    (h : ∀ v, f.AdmitsInterface v ↔ f'.AdmitsInterface v) : c.AgreeOnInterfaces f f' :=
  fun _ _ _ _ v _ => h v

/-- **What the versions of a filter do.** Filters that differ in versions only resolve alike in a
catalog whose components implement no interface that just one of them admits. They resolve alike
in all catalogs exactly if they admit the same versions of interfaces. -/
theorem resolve_filter_versions {f f' : AttributeSet} (h : SameButVersions f f') :
    (∀ (c : Catalog) (versionFilter : String) (compatible : Bool), c.AgreeOnInterfaces f f' →
        c.resolve f versionFilter compatible = c.resolve f' versionFilter compatible) ∧
      ((∀ (c : Catalog) (versionFilter : String) (compatible : Bool),
          c.resolve f versionFilter compatible = c.resolve f' versionFilter compatible) ↔
        ∀ v, f.AdmitsInterface v ↔ f'.AdmitsInterface v) := by
  refine ⟨fun c versionFilter compatible hc => resolve_congr h hc versionFilter compatible,
    fun hall v => ?_, fun hall c versionFilter compatible =>
      resolve_congr h (agreeOnInterfaces_of_forall c hall) versionFilter compatible⟩
  -- A catalog with just one component, which implements that version, tells the filters apart.
  have hsame := hall ⟨[implementation f v]⟩ "" false
  rw [resolve_singleton, resolve_singleton] at hsame
  have hself : SameButVersions f f := fun _ _ => rfl
  rw [← isComponent_implementation hself v, ← isComponent_implementation h v]
  split_ifs at hsame with hf hf' hf'
  · exact iff_of_true hf hf'
  · exact iff_of_false hf hf'

theorem sameButVersions_set (f : AttributeSet) {name : String}
    (hname : Key.isVersion name = true) (value : String) :
    SameButVersions f (f.set name value).1 := by
  have hne : name ≠ "" := by
    rintro rfl
    cases hname
  intro name' hname'
  have hother : name' ≠ name := by
    rintro rfl
    rw [hname] at hname'
    cases hname'
  rw [AttributeSet.get?_set f hne, if_neg hother]

/-- Where no component implements an interface, neither version of the filter counts. -/
theorem resolve_filter_versions_devices :
    SameButVersions (device "1.0") ((device "1.0").set Key.apiVersion "2.0.0").1 ∧
      AgreeOnInterfaces ⟨[device "1.0", device "1.5"]⟩ (device "1.0")
        ((device "1.0").set Key.apiVersion "2.0.0").1 ∧
      (⟨[device "1.0", device "1.5"]⟩ : Catalog).resolve (device "1.0") "1.0" true =
        (⟨[device "1.0", device "1.5"]⟩ : Catalog).resolve
          ((device "1.0").set Key.apiVersion "2.0.0").1 "1.0" true := by
  have hname : Key.isVersion Key.apiVersion = true := by decide
  have h := sameButVersions_set (device "1.0") hname "2.0.0"
  have hnone : ∀ entry ∈ [device "1.0", device "1.5"], entry.get? Key.apiVersion = none := by
    decide +kernel
  have hc : AgreeOnInterfaces ⟨[device "1.0", device "1.5"]⟩ (device "1.0")
      ((device "1.0").set Key.apiVersion "2.0.0").1 := by
    intro entry hentry _ _ v hv
    rw [hnone entry hentry] at hv
    cases hv
  exact ⟨h, hc, (resolve_filter_versions h).1 _ "1.0" true hc⟩

/-- A component that implements version `1.0.0` of an interface is lost to a filter that differs
in its interface version only. -/
theorem resolve_interface_version :
    SameButVersions (device "1.0") ((device "1.0").set Key.apiVersion "2.0.0").1 ∧
      (⟨[((device "1.0").set Key.apiVersion "1.0.0").1]⟩ : Catalog).resolve (device "1.0") ""
          false ≠
        (⟨[((device "1.0").set Key.apiVersion "1.0.0").1]⟩ : Catalog).resolve
          ((device "1.0").set Key.apiVersion "2.0.0").1 "" false := by
  refine ⟨sameButVersions_set (device "1.0") (by decide) "2.0.0", ?_⟩
  decide +kernel

end PackQuery.Catalog
