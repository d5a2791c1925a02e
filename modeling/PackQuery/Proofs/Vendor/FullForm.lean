import PackQuery.Proofs.Vendor.Spelling

/-!
# Full forms are stable

A full form is a vendor text again: a display name, a colon and an id. It is cut at its last colon,
and the id is looked up among the retired ones, as with any other text with an id.

**Current ids** (`HasCurrentIds`). An id behind a name is not looked up among the retired ones, and
the successor of an id is not either. So for a full form to stay as it is, neither may be retired,
and no id that is shown may have a colon.

**Full forms of full forms** (`full_full`). Then every full form has a current id and stays as it
is. Whether the tables of a registry are such can be decided, and the built-in ones are.
-/

namespace PackQuery.Vendor.Registry

variable {r : Registry} {vendor id name : String}

/-- What stable full forms need of a registry. -/
structure HasCurrentIds (r : Registry) : Prop where
  /-- An id with a display name is not empty and has no colon. -/
  plainIds : ∀ id name, r.nameOf? id = some name → id ≠ "" ∧ ':' ∉ id.toList
  /-- The id of a name is not retired. -/
  aliases : ∀ name id, r.idOf? name = some id → r.successors.get? id = none
  /-- The successor of a retired id is not retired. -/
  successors : ∀ old new, r.successors.get? old = some new → r.successors.get? new = none

/-- The tables tell whether full forms are stable. -/
theorem hasCurrentIds_iff :
    r.HasCurrentIds ↔
      (∀ id name, r.names.get? id = some name → id ≠ "" ∧ ':' ∉ id.toList) ∧
      (∀ name id, r.ids.get? name = some id → r.successors.get? id = none) ∧
      ∀ old new, r.successors.get? old = some new → r.successors.get? new = none := by
  constructor
  · intro hr
    exact ⟨hr.plainIds, hr.aliases, hr.successors⟩
  · rintro ⟨hplain, haliases, hsuccessors⟩
    exact ⟨hplain, haliases, hsuccessors⟩

instance (r : Registry) : Decidable r.HasCurrentIds := decidable_of_iff' _ hasCurrentIds_iff

theorem builtin_hasCurrentIds : builtin.HasCurrentIds := by decide +kernel

/-- One look-up among the retired ids is enough. -/
theorem HasCurrentIds.currentId_not_retired (hr : r.HasCurrentIds) (id : String) :
    r.successors.get? (r.currentId id) = none := by
  unfold currentId
  cases h : r.successors.get? id with
  | none => exact h
  | some new => exact hr.successors id new h

/-- A vendor text denotes an id that is not retired. -/
theorem HasCurrentIds.idFor?_not_retired (hr : r.HasCurrentIds) (h : r.idFor? vendor = some id) :
    r.successors.get? id = none := by
  unfold idFor? at h
  split_ifs at h
  · exact hr.aliases _ _ h
  · exact Option.some_inj.mp h ▸ hr.currentId_not_retired _

theorem currentId_of_not_retired (h : r.successors.get? id = none) : r.currentId id = id := by
  rw [currentId, h, Option.getD_none]

/-- A full form denotes the id that it ends with, however many colons its name has. -/
theorem idFor?_append (hempty : id ≠ "") (hcolon : ':' ∉ id.toList)
    (hretired : r.successors.get? id = none) (name : String) :
    r.idFor? (name ++ ":" ++ id) = some id := by
  rw [idFor?, idPart_append hcolon, if_neg hempty, currentId_of_not_retired hretired]

theorem HasCurrentIds.full_full_eq (hr : r.HasCurrentIds) (vendor : String) :
    r.full (r.full vendor) = r.full vendor := by
  cases h : r.displayName? vendor with
  | none => rw [full_of_displayName?_eq_none h, full_of_displayName?_eq_none h]
  | some name =>
    obtain ⟨id, hid, hname⟩ := exists_nameOf? h
    obtain ⟨hempty, hcolon⟩ := hr.plainIds id name hname
    have hagain := idFor?_append hempty hcolon (hr.idFor?_not_retired hid) name
    rw [full_eq hid hname, full_eq hagain hname]

/-- **Full forms of full forms.** Where no retired id stands behind a name or another retired id, a
full form stays as it is, and that of a resolved text has an id that is not retired and goes by the
display name in front of it. -/
theorem full_full :
    builtin.HasCurrentIds ∧
      ∀ r : Registry, r.HasCurrentIds →
        (∀ vendor, r.full (r.full vendor) = r.full vendor) ∧
        ∀ vendor name, r.displayName? vendor = some name →
          ∃ id, r.full vendor = name ++ ":" ++ id ∧ r.successors.get? id = none ∧
            r.nameOf? id = some name := by
  refine ⟨builtin_hasCurrentIds, fun r hr => ⟨hr.full_full_eq, fun vendor name h => ?_⟩⟩
  obtain ⟨id, hid, hname⟩ := exists_nameOf? h
  exact ⟨id, full_eq hid hname, hr.idFor?_not_retired hid, hname⟩

/-- A registry with a display name that has colons, and with a retired id. -/
def tools : Registry :=
  { ids := .ofList [("Acme", "9000")]
    names := .ofList [("9000", "Acme: Tools:")]
    successors := .ofList [("8999", "9000")] }

/-- A text with two colons and a retired id, and its full form with three. -/
theorem full_full_tools :
    tools.HasCurrentIds ∧ tools.full "Old: Acme:8999" = "Acme: Tools::9000" ∧
      tools.full (tools.full "Old: Acme:8999") = tools.full "Old: Acme:8999" ∧
      tools.displayName? "Old: Acme:8999" = some "Acme: Tools:" ∧
      ∃ id, tools.full "Old: Acme:8999" = "Acme: Tools:" ++ ":" ++ id ∧
        tools.successors.get? id = none ∧ tools.nameOf? id = some "Acme: Tools:" := by
  have hcurrent : tools.HasCurrentIds := by decide +kernel
  have hname : tools.displayName? "Old: Acme:8999" = some "Acme: Tools:" := by decide +kernel
  obtain ⟨hstable, hform⟩ := full_full.2 tools hcurrent
  exact ⟨hcurrent, by decide +kernel, hstable "Old: Acme:8999", hname,
    hform "Old: Acme:8999" "Acme: Tools:" hname⟩

end PackQuery.Vendor.Registry
