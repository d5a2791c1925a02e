import PackQuery.Attributes.Identity

/-!
# Demands on components

A filter demands something of each component attribute that it has, and a component passes if it
meets every demand (`passesComponent_iff`). So a filter is what it answers to look-ups: the order
in which it was made, and its tag, do not matter (`passesComponent_congr`), and one demand can be
considered apart from the others (`passesComponent_iff_remove`).
-/

namespace PackQuery.AttributeSet

/-! ## Single demands -/

/-- Whether an entry meets the demand on one component attribute. -/
def meets (entry : AttributeSet) (name wanted : String) : Bool :=
  match entry.get? name with
  | none => wanted == "" || name == Key.apiVersion
  | some stored =>
    if Key.isVersion name then Version.Range.admits false wanted stored
    else Wildcard.agree wanted stored

/-- **A component passes a filter if it meets every demand.** -/
theorem passesComponent_iff {entry filter : AttributeSet} :
    entry.passesComponent filter = true ↔
      ∀ name wanted, filter.get? name = some wanted → Key.isComponent name = true →
        entry.meets name wanted = true := by
  have hdemand : ∀ name wanted, (!Key.isComponent name || entry.meets name wanted) = true ↔
      (Key.isComponent name = true → entry.meets name wanted = true) := by
    intro name wanted
    cases Key.isComponent name <;> simp
  unfold passesComponent
  rw [List.all_eq_true]
  constructor
  · intro h name wanted hwanted
    exact (hdemand name wanted).mp (h (name, wanted) (mem_pairs_iff.mpr hwanted))
  · rintro h ⟨name, wanted⟩ hmem
    exact (hdemand name wanted).mpr (h name wanted (mem_pairs_iff.mp hmem))

/-- Filters that answer look-ups alike let the same components through. -/
theorem passesComponent_congr {f f' : AttributeSet} (h : ∀ name, f.get? name = f'.get? name)
    (entry : AttributeSet) : entry.passesComponent f = entry.passesComponent f' := by
  rw [Bool.eq_iff_iff, passesComponent_iff, passesComponent_iff]
  simp only [h]

/-- A component meets its own values where they are no versions. -/
theorem meets_self {entry : AttributeSet} {name value : String}
    (h : entry.get? name = some value) (hname : Key.isVersion name = false) :
    entry.meets name value = true := by
  simp [meets, h, hname, Wildcard.agree]

/-! ## One demand apart from the others -/

/-- **One demand stands apart from the others.** -/
theorem passesComponent_iff_remove {name : String} (hname : Key.isComponent name = true)
    (entry filter : AttributeSet) :
    entry.passesComponent filter = true ↔
      entry.passesComponent (filter.remove name).1 = true ∧
        ∀ wanted, filter.get? name = some wanted → entry.meets name wanted = true := by
  rw [passesComponent_iff, passesComponent_iff]
  constructor
  · intro h
    refine ⟨fun name' wanted hwanted => ?_, fun wanted hwanted => h name wanted hwanted hname⟩
    rw [get?_remove] at hwanted
    split at hwanted
    · cases hwanted
    · exact h name' wanted hwanted
  · rintro ⟨hothers, hone⟩ name' wanted hwanted
    by_cases he : name' = name
    · subst he
      exact fun _ => hone wanted hwanted
    · exact hothers name' wanted (by rwa [get?_remove, if_neg he])

theorem isComponent_ne_empty {name : String} (h : Key.isComponent name = true) : name ≠ "" := by
  rintro rfl
  cases h

/-- A demand that is stored takes the place of the one on the same attribute. -/
theorem passesComponent_set {name : String} (hname : Key.isComponent name = true)
    (entry filter : AttributeSet) (wanted : String) :
    entry.passesComponent (filter.set name wanted).1 = true ↔
      entry.passesComponent (filter.remove name).1 = true ∧ entry.meets name wanted = true := by
  have hne := isComponent_ne_empty hname
  have hothers : ∀ name', ((filter.set name wanted).1.remove name).1.get? name' =
      (filter.remove name).1.get? name' := by
    intro name'
    rw [get?_remove, get?_remove, get?_set filter hne]
    split <;> rfl
  rw [passesComponent_iff_remove hname, passesComponent_congr hothers, get?_set filter hne,
    if_pos rfl]
  simp

/-! ## Versions -/

/-- The version of a component with a component version. -/
theorem get?_componentVersion {entry : AttributeSet} (happ : entry.isApi = false)
    (h : entry.get Key.componentVersion ≠ "") :
    entry.get? Key.componentVersion = some entry.version := by
  have hversion : entry.version = entry.get Key.componentVersion := by
    simp [version, happ, firstOf, h]
  rw [hversion]
  unfold get at h ⊢
  cases hget : entry.get? Key.componentVersion with
  | none => simp [hget] at h
  | some value => rfl

theorem meets_componentVersion {entry : AttributeSet} (happ : entry.isApi = false)
    (h : entry.get Key.componentVersion ≠ "") (range : String) :
    entry.meets Key.componentVersion range =
      Version.Range.admits false range entry.version := by
  unfold meets
  rw [get?_componentVersion happ h]
  exact if_pos rfl

/-- Whether a filter lets through the components that implement a version of an interface. -/
def AdmitsInterface (filter : AttributeSet) (v : String) : Prop :=
  ∀ range, filter.get? Key.apiVersion = some range → Version.Range.admits false range v = true

/-- A demand on the interface version is met where none is implemented. -/
theorem meets_apiVersion_iff {entry : AttributeSet} {range : String} :
    entry.meets Key.apiVersion range = true ↔
      ∀ v, entry.get? Key.apiVersion = some v → Version.Range.admits false range v = true := by
  unfold meets
  cases entry.get? Key.apiVersion with
  | none => simp
  | some v =>
    have hversion : Key.isVersion Key.apiVersion = true := by decide
    simp [hversion]

theorem meets_interface_iff {entry filter : AttributeSet} :
    (∀ range, filter.get? Key.apiVersion = some range →
        entry.meets Key.apiVersion range = true) ↔
      ∀ v, entry.get? Key.apiVersion = some v → filter.AdmitsInterface v := by
  simp only [meets_apiVersion_iff, AdmitsInterface]
  exact ⟨fun h v hv range hrange => h range hrange v hv,
    fun h range hrange v hv => h v hv range hrange⟩

end PackQuery.AttributeSet
