import PackQuery.Proofs.Vendor.CanonicalName

/-!
# Vendor texts and their canonical names

Both matching and canonical names go by the id of a vendor text, and both look up the name part of
a text without an id. They differ where a text has an id that nobody knows: the canonical name is
then that of the name part, but the text is not resolved and is matched by its name part as it is
written.

**Tidy registries** (`IsTidy`). A canonical name is resolved to itself, so a text and its canonical
name match exactly if the names of both do (`same_canonicalName`).

**Stray ids** (`HasStrayId`). Hence a text matches its canonical name unless an unknown id stands
behind a name that goes by another display name (`builtin_same_canonicalName_iff`), as in `TI:9999`.
-/

namespace PackQuery.Vendor.Registry

variable {r : Registry} {vendor : String}

/-! ## Tidy registries -/

/-- What the laws of canonical names need of a registry; the built-in one has it. -/
structure IsTidy (r : Registry) : Prop where
  plainNames : r.HasPlainNames
  keeps : ∀ id name, r.nameOf? id = some name → r.Keeps name
  /-- A name with an id is no wildcard pattern. -/
  plainAliases : ∀ name id, r.idOf? name = some id → Wildcard.isPattern name = false
  /-- A retired id goes by the name of its successor. -/
  current : ∀ id, r.nameOf? (r.currentId id) = r.nameOf? id

theorem builtin_isTidy : builtin.IsTidy where
  plainNames := builtin_hasPlainNames
  keeps _ _ h := builtin_keeps h
  plainAliases name id h := by
    have hplain : ∀ name id, builtinIds.get? name = some id → isPlain name = true := by
      decide +kernel
    exact Wildcard.isPattern_of_not_mem fun c hc =>
      not_mem_of_isPlain (hplain name id h) c (List.mem_cons_of_mem _ hc)
  current id := by
    rw [currentId]
    cases h : builtin.successors.get? id with
    | none => rfl
    | some new => exact (builtin_nameOf?_retired id new h).symm

/-! ## Canonical names are resolved to themselves -/

theorem displayName?_eq (hr : r.IsTidy) (vendor : String) :
    r.displayName? vendor =
      if idPart vendor = "" then (r.idOf? (namePart vendor)).bind r.nameOf?
      else r.nameOf? (idPart vendor) := by
  unfold displayName? idFor?
  split
  · rfl
  · exact hr.current _

theorem not_mem_canonicalName (hr : r.IsTidy) (vendor : String) :
    ':' ∉ (r.canonicalName vendor).toList := by
  rw [canonicalName_eq]
  cases h : r.resolvedName? vendor with
  | none => exact not_mem_namePart vendor
  | some name =>
    obtain ⟨id, hid⟩ := exists_nameOf?_of_resolvedName? h
    exact hr.plainNames.not_mem_colon hid

theorem namePart_full_canonicalName (hr : r.IsTidy) (vendor : String) :
    namePart (r.full (r.canonicalName vendor)) = r.canonicalName vendor := by
  have hcolon := not_mem_canonicalName hr vendor
  have hstable := canonicalName_canonicalName hr.keeps vendor
  generalize r.canonicalName vendor = name at hcolon hstable
  have hresolved : r.displayName? name = r.resolvedName? name := by
    rw [displayName?_eq hr, if_pos (idPart_of_not_mem hcolon), namePart_of_not_mem hcolon,
      resolvedName?_of_not_mem r hcolon]
  rcases canonicalName_eq_self_iff.mp hstable with hself | ⟨hnone, -⟩
  · exact namePart_full hr.plainNames (hresolved.trans hself)
  · rw [full_of_displayName?_eq_none (hresolved.trans hnone), namePart_of_not_mem hcolon]

/-- **A text and its canonical name match if their names do.** -/
theorem same_canonicalName (hr : r.IsTidy) (vendor : String) :
    r.same vendor (r.canonicalName vendor) =
      Wildcard.agree (namePart (r.full vendor)) (r.canonicalName vendor) := by
  have hname := namePart_full_canonicalName hr vendor
  unfold same
  split_ifs with htext hid
  · rw [← htext] at hname ⊢
    rw [hname, Wildcard.agree_self]
  · exact absurd (idPart_of_not_mem (not_mem_canonicalName hr vendor)) hid.2.1
  · rw [hname]

/-! ## Stray ids -/

/-- Whether an id without a display name stands behind a name that goes by another one. -/
def HasStrayId (r : Registry) (vendor : String) : Prop :=
  idPart vendor ≠ "" ∧ r.nameOf? (idPart vendor) = none ∧
    ∃ name, (r.idOf? (namePart vendor)).bind r.nameOf? = some name ∧ name ≠ namePart vendor

theorem same_canonicalName_of_displayName? (hr : r.IsTidy) {name : String}
    (h : r.displayName? vendor = some name) : r.same vendor (r.canonicalName vendor) = true := by
  have hcanonical : r.canonicalName vendor = name := by
    rw [displayName?_eq hr] at h
    rw [canonicalName_eq, resolvedName?]
    split at h
    · rename_i hempty
      rw [if_pos hempty, h]
      rfl
    · rename_i hempty
      rw [if_neg hempty, h]
      rfl
  rw [same_canonicalName hr, hcanonical, namePart_full hr.plainNames h, Wildcard.agree_self]

theorem same_canonicalName_iff (hr : r.IsTidy) (vendor : String) :
    r.same vendor (r.canonicalName vendor) = true ↔ ¬r.HasStrayId vendor := by
  cases h : r.displayName? vendor with
  | some name =>
    refine iff_of_true (same_canonicalName_of_displayName? hr h) ?_
    rintro ⟨hid, hunknown, -⟩
    rw [displayName?_eq hr, if_neg hid, hunknown] at h
    cases h
  | none =>
    rw [same_canonicalName hr, full_of_displayName?_eq_none h, canonicalName_eq, resolvedName?]
    rw [displayName?_eq hr] at h
    by_cases hid : idPart vendor = ""
    · rw [if_pos hid] at h
      rw [if_pos hid, h]
      exact iff_of_true (Wildcard.agree_self _) fun hstray => hstray.1 hid
    · -- The id is unknown, and the canonical name is that of the name part.
      rw [if_neg hid] at h
      rw [if_neg hid, h, Option.none_or]
      cases hname : (r.idOf? (namePart vendor)).bind r.nameOf? with
      | none =>
        refine iff_of_true (Wildcard.agree_self _) ?_
        rintro ⟨-, -, name, hname', -⟩
        rw [hname] at hname'
        cases hname'
      | some name =>
        obtain ⟨id, hid', hname'⟩ := Option.bind_eq_some_iff.mp hname
        rw [Option.getD_some, Wildcard.agree_iff_eq (hr.plainAliases _ id hid')
          (hr.plainNames.not_isPattern hname')]
        constructor
        · rintro heq ⟨-, -, other, hother, hne⟩
          rw [hname] at hother
          exact hne (Option.some_inj.mp hother ▸ heq.symm)
        · intro hstray
          by_contra hne
          exact hstray ⟨hid, h, name, hname, Ne.symm hne⟩

/-- **When a vendor text matches its canonical name:** unless it has an unknown id behind a name
that goes by another display name. -/
theorem builtin_same_canonicalName_iff (vendor : String) :
    builtin.same vendor (builtin.canonicalName vendor) = true ↔ ¬builtin.HasStrayId vendor :=
  same_canonicalName_iff builtin_isTidy vendor

/-- A name with another display name, in front of an id that nobody knows. -/
theorem not_same_canonicalName :
    builtin.canonicalName "TI:9999" = "Texas Instruments" ∧
      builtin.same "TI:9999" (builtin.canonicalName "TI:9999") = false := by
  decide +kernel

end PackQuery.Vendor.Registry
