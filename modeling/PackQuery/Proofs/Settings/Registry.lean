import Mathlib.Tactic.SplitIfs
import PackQuery.Settings.Validation

/-!
# Registries of settings

Vendor settings that pass validation give a registry: their tables over the built-in ones, or over
none.

**Faults** (`faults_eq_nil_iff`). Each fault is one of a single entry, so settings are accepted
exactly if every entry is right on its own.

**Valid registries** (`isValid_of_ofSettings`). Ids in a registry of settings are numbers and names
are not empty, which holds of the built-in tables and is kept where settings are laid over them.
-/

namespace PackQuery

/-! ## Faults -/

namespace VendorSettings

theorem faultIf_eq_nil_iff {condition : Bool} {field message : String} :
    faultIf condition field message = [] ↔ condition = false := by
  unfold faultIf
  cases condition <;> simp

theorem aliasFaults_eq_nil_iff {name id : String} :
    aliasFaults name id = [] ↔
      isBlankName name = false ∧ ':' ∉ name.toList ∧ Vendor.isId id = true := by
  simp only [aliasFaults, List.append_eq_nil_iff, faultIf_eq_nil_iff, Bool.not_eq_false',
    List.contains_eq_mem, decide_eq_false_iff_not, and_assoc]

theorem nameFaults_eq_nil_iff {id name : String} :
    nameFaults id name = [] ↔ Vendor.isId id = true ∧ isBlankName name = false := by
  simp only [nameFaults, List.append_eq_nil_iff, faultIf_eq_nil_iff, Bool.not_eq_false']

theorem legacyFaults_eq_nil_iff {old new : String} :
    legacyFaults old new = [] ↔
      Vendor.isId old = true ∧ Vendor.isId new = true ∧ old ≠ new := by
  unfold legacyFaults
  cases Vendor.isId old <;> cases Vendor.isId new <;> simp [faultIf_eq_nil_iff]

/-- Settings are accepted exactly if every entry is. -/
theorem faults_eq_nil_iff {s : VendorSettings} :
    s.faults = [] ↔
      (∀ name id, s.aliases.get? name = some id → aliasFaults name id = []) ∧
      (∀ id name, s.names.get? id = some name → nameFaults id name = []) ∧
      ∀ old new, s.legacyIds.get? old = some new → legacyFaults old new = [] := by
  simp only [faults, List.append_eq_nil_iff, List.flatMap_eq_nil_iff,
    ← Dict.forall_mem_entries_iff, and_assoc]

theorem ne_empty_of_not_isBlankName {name : String} (h : isBlankName name = false) :
    name ≠ "" := by
  rintro rfl
  cases h

end VendorSettings

/-! ## Registries of settings -/

namespace Vendor.Registry

variable {r : Registry} {s : VendorSettings}

theorem ofSettings_eq_ok_iff :
    ofSettings s = .ok r ↔
      s.faults = [] ∧ (if s.useBuiltins then builtin else empty).extend s = r := by
  unfold ofSettings
  split
  · rename_i hfaults
    simp [hfaults]
  · rename_i hfaults
    simp [hfaults]

/-- What valid settings and the built-in tables have in common: ids are numbers, and no name is
empty. -/
structure IsValid (r : Registry) : Prop where
  idOf?_empty : r.idOf? "" = none
  names : ∀ id name, r.nameOf? id = some name → isId id = true ∧ name ≠ ""
  retired : ∀ old new, r.successors.get? old = some new → isId old = true

theorem empty_isValid : empty.IsValid where
  idOf?_empty := rfl
  names := nofun
  retired := nofun

theorem builtin_isValid : builtin.IsValid where
  idOf?_empty := by decide +kernel
  names := by
    show ∀ id name, builtinNames.get? id = some name → isId id = true ∧ name ≠ ""
    decide +kernel
  retired := by decide +kernel

/-- Valid settings over a valid registry give a valid registry. -/
theorem IsValid.extend (hr : r.IsValid) (hs : s.faults = []) : (r.extend s).IsValid := by
  obtain ⟨haliases, hnames, hretired⟩ := VendorSettings.faults_eq_nil_iff.mp hs
  constructor
  case idOf?_empty =>
    show (r.ids.overlay s.aliases).get? "" = none
    rw [Dict.get?_overlay, Option.or_eq_none_iff]
    refine ⟨?_, hr.idOf?_empty⟩
    rw [Option.eq_none_iff_forall_ne_some]
    intro id hid
    have hname := VendorSettings.aliasFaults_eq_nil_iff.mp (haliases "" id hid)
    exact VendorSettings.ne_empty_of_not_isBlankName hname.1 rfl
  case names =>
    refine Dict.forall_get?_overlay hr.names fun id name h => ?_
    have hname := VendorSettings.nameFaults_eq_nil_iff.mp (hnames id name h)
    exact ⟨hname.1, VendorSettings.ne_empty_of_not_isBlankName hname.2⟩
  case retired =>
    refine Dict.forall_get?_overlay hr.retired fun old new h => ?_
    exact (VendorSettings.legacyFaults_eq_nil_iff.mp (hretired old new h)).1

/-- **A registry of settings is valid.** -/
theorem isValid_of_ofSettings (h : ofSettings s = .ok r) : r.IsValid := by
  obtain ⟨hfaults, rfl⟩ := ofSettings_eq_ok_iff.mp h
  split_ifs
  · exact builtin_isValid.extend hfaults
  · exact empty_isValid.extend hfaults

theorem eq_builtin_of_ofSettings (h : ofSettings s = .ok r) (hs : s.isBuiltinOnly = true) :
    r = builtin := by
  obtain ⟨-, rfl⟩ := ofSettings_eq_ok_iff.mp h
  simp only [VendorSettings.isBuiltinOnly, Dict.isEmpty, Bool.and_eq_true,
    List.isEmpty_iff] at hs
  obtain ⟨⟨⟨huse, haliases⟩, hnames⟩, hretired⟩ := hs
  rw [if_pos huse, Registry.extend, Dict.overlay, Dict.overlay, Dict.overlay, haliases, hnames,
    hretired]
  rfl

/-- Settings with one vendor of two names, one of which is its display name, and a retired id. -/
def acme : VendorSettings :=
  { aliases := .ofList [("Acme Semiconductor", "9000"), ("Acme", "9000")]
    names := .ofList [("9000", "Acme")]
    legacyIds := .ofList [("8999", "9000")] }

theorem ofSettings_acme : ofSettings acme = .ok (builtin.extend acme) :=
  ofSettings_eq_ok_iff.mpr ⟨by decide +kernel, rfl⟩

end Vendor.Registry

end PackQuery
