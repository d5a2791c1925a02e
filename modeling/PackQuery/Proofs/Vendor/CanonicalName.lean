import Mathlib.Data.List.TakeWhile
import PackQuery.Proofs.Settings.Registry
import PackQuery.Proofs.Vendor.Spelling

/-!
# Canonical names

The canonical name of a vendor text is the display name that the tables give for it, and the name
part of the text if they give none.

**Canonical names of canonical names** (`canonicalName_idempotent_iff`). A name part is never cut
or looked up anew, but a display name can be: it may be the name of an id with another display
name, or have a colon. Settings are not checked for that. So canonical names are stable exactly if
the registry keeps all its display names, as the built-in one does.

**Canonical names and full forms** (`full_canonicalName`). A full form is made from the current id
of a vendor, a canonical name from the id as it is written. So the two have one name exactly if a
retired id goes by the name of its successor, as the built-in ones do. Again settings are not
checked for that.
-/

namespace PackQuery.Vendor

/-! ## Parts of vendor texts -/

theorem not_mem_namePart (vendor : String) : ':' ∉ (namePart vendor).toList := by
  rw [namePart, Text.before, String.toList_ofList, Chars.before]
  intro h
  simpa using List.mem_takeWhile_imp h

theorem namePart_of_not_mem {vendor : String} (h : ':' ∉ vendor.toList) :
    namePart vendor = vendor := by
  rw [namePart, Text.before, Chars.before_of_not_mem h, String.ofList_toList]

theorem idPart_of_not_mem {vendor : String} (h : ':' ∉ vendor.toList) : idPart vendor = "" := by
  rw [idPart, Text.afterLast, Chars.afterLast_of_not_mem h]

theorem namePart_colon_append (id : String) : namePart (":" ++ id) = "" := by
  have happend := @namePart_append "" (by simp) id
  rwa [String.empty_append] at happend

theorem idPart_colon_append {id : String} (h : ':' ∉ id.toList) : idPart (":" ++ id) = id := by
  have happend := idPart_append h ""
  rwa [String.empty_append] at happend

theorem ne_empty_of_isId {id : String} (h : isId id = true) : id ≠ "" := by
  rintro rfl
  cases h

theorem not_mem_colon_of_isId {id : String} (h : isId id = true) : ':' ∉ id.toList := by
  intro hmem
  have hdigits := ((Bool.and_eq_true _ _).mp h).2
  exact absurd (List.all_eq_true.mp hdigits ':' hmem) (by decide)

namespace Registry

/-! ## Names that the tables give -/

/-- The display name that the tables give for a vendor text: that of its id as it is written, else
that of the id of its name. -/
def resolvedName? (r : Registry) (vendor : String) : Option String :=
  (if idPart vendor = "" then none else r.nameOf? (idPart vendor)).or
    ((r.idOf? (namePart vendor)).bind r.nameOf?)

theorem canonicalName_eq (r : Registry) (vendor : String) :
    r.canonicalName vendor = (r.resolvedName? vendor).getD (namePart vendor) := rfl

theorem resolvedName?_of_not_mem (r : Registry) {name : String} (h : ':' ∉ name.toList) :
    r.resolvedName? name = (r.idOf? name).bind r.nameOf? := by
  rw [resolvedName?, if_pos (idPart_of_not_mem h), namePart_of_not_mem h, Option.none_or]

theorem resolvedName?_colon_append (r : Registry) {id name : String} (hid : isId id = true)
    (h : r.nameOf? id = some name) : r.resolvedName? (":" ++ id) = some name := by
  rw [resolvedName?, idPart_colon_append (not_mem_colon_of_isId hid),
    if_neg (ne_empty_of_isId hid), h, Option.some_or]

/-- The tables give display names only. -/
theorem exists_nameOf?_of_resolvedName? {r : Registry} {vendor name : String}
    (h : r.resolvedName? vendor = some name) : ∃ id, r.nameOf? id = some name := by
  rw [resolvedName?, Option.or_eq_some_iff] at h
  rcases h with h | ⟨-, h⟩
  · split_ifs at h
    exact ⟨_, h⟩
  · obtain ⟨id, -, hname⟩ := Option.bind_eq_some_iff.mp h
    exact ⟨id, hname⟩

/-- A text that the tables give no name for has a name part that they give no name for. -/
theorem resolvedName?_namePart {r : Registry} {vendor : String}
    (h : r.resolvedName? vendor = none) : r.resolvedName? (namePart vendor) = none := by
  rw [resolvedName?_of_not_mem r (not_mem_namePart vendor)]
  exact (Option.or_eq_none_iff.mp h).2

/-! ## Canonical names of canonical names -/

/-- Whether a registry leaves a display name as it is: the tables give the name for itself, or
they give none for it and it has no colon. -/
def Keeps (r : Registry) (name : String) : Prop :=
  r.resolvedName? name = some name ∨ r.resolvedName? name = none ∧ ':' ∉ name.toList

theorem canonicalName_eq_self_iff {r : Registry} {name : String} :
    r.canonicalName name = name ↔ r.Keeps name := by
  rw [canonicalName_eq, Keeps]
  cases r.resolvedName? name with
  | some other => simp
  | none =>
    constructor
    · intro h
      refine Or.inr ⟨rfl, ?_⟩
      rw [← h]
      exact not_mem_namePart name
    · rintro (h | ⟨-, h⟩)
      · cases h
      · exact namePart_of_not_mem h

/-- **When a canonical name is stable:** if the tables give none, or one that the registry keeps. -/
theorem canonicalName_canonicalName_iff (r : Registry) (vendor : String) :
    r.canonicalName (r.canonicalName vendor) = r.canonicalName vendor ↔
      ∀ name, r.resolvedName? vendor = some name → r.Keeps name := by
  rw [canonicalName_eq_self_iff, canonicalName_eq]
  cases h : r.resolvedName? vendor with
  | some name => simp
  | none =>
    have hkept : r.Keeps (namePart vendor) :=
      Or.inr ⟨resolvedName?_namePart h, not_mem_namePart vendor⟩
    exact iff_of_true hkept nofun

/-- The built-in registry keeps its display names. -/
theorem builtin_keeps {id name : String} (h : builtin.nameOf? id = some name) :
    builtin.Keeps name := by
  have hown : ∀ id name, builtinNames.get? id = some name →
      (builtin.idOf? name).bind builtin.nameOf? = some name ∨
        (builtin.idOf? name).bind builtin.nameOf? = none := by decide +kernel
  have hcolon := builtin_hasPlainNames.not_mem_colon h
  rw [Keeps, resolvedName?_of_not_mem builtin hcolon]
  exact (hown id name h).imp_right fun hnone => ⟨hnone, hcolon⟩

/-- Canonical names are stable if the registry keeps all display names. -/
theorem canonicalName_canonicalName {r : Registry}
    (hkeeps : ∀ id name, r.nameOf? id = some name → r.Keeps name) (vendor : String) :
    r.canonicalName (r.canonicalName vendor) = r.canonicalName vendor := by
  rw [canonicalName_canonicalName_iff]
  intro name hname
  obtain ⟨id, hid⟩ := exists_nameOf?_of_resolvedName? hname
  exact hkeeps id name hid

/-- If all canonical names are stable, the registry keeps its display names: an id alone is a text
with this canonical name. -/
theorem keeps_of_canonicalName {r : Registry} (hr : r.IsValid)
    (hstable : ∀ vendor, r.canonicalName (r.canonicalName vendor) = r.canonicalName vendor)
    {id name : String} (h : r.nameOf? id = some name) : r.Keeps name := by
  have hid : isId id = true := (hr.names id name h).1
  have hgiven := r.resolvedName?_colon_append hid h
  exact (r.canonicalName_canonicalName_iff (":" ++ id)).mp (hstable (":" ++ id)) name hgiven

/-- **When canonical names are stable.** The canonical name of a text is its own canonical name if
the tables give none for the text, or one that the registry keeps. So all are stable exactly if
the registry keeps all display names, and with the built-in tables alone they are. -/
theorem canonicalName_idempotent_iff {s : VendorSettings} {r : Registry}
    (h : ofSettings s = .ok r) :
    (∀ vendor, r.canonicalName (r.canonicalName vendor) = r.canonicalName vendor ↔
        ∀ name, r.resolvedName? vendor = some name → r.Keeps name) ∧
      ((∀ vendor, r.canonicalName (r.canonicalName vendor) = r.canonicalName vendor) ↔
        ∀ id name, r.nameOf? id = some name → r.Keeps name) ∧
      (s.isBuiltinOnly = true →
        ∀ vendor, r.canonicalName (r.canonicalName vendor) = r.canonicalName vendor) := by
  have hr := isValid_of_ofSettings h
  refine ⟨r.canonicalName_canonicalName_iff, ⟨?_, canonicalName_canonicalName⟩, fun hs => ?_⟩
  · intro hstable id name hname
    exact keeps_of_canonicalName hr hstable hname
  · obtain rfl := eq_builtin_of_ofSettings h hs
    exact canonicalName_canonicalName fun _ _ => builtin_keeps

/-- The tables give a display name for the longer name, and the registry keeps it. -/
theorem canonicalName_idempotent_iff_acme :
    ofSettings acme = .ok (builtin.extend acme) ∧
      (builtin.extend acme).resolvedName? "Acme Semiconductor" = some "Acme" ∧
      (builtin.extend acme).Keeps "Acme" ∧
      (builtin.extend acme).canonicalName
          ((builtin.extend acme).canonicalName "Acme Semiconductor") =
        (builtin.extend acme).canonicalName "Acme Semiconductor" := by
  have hgiven : (builtin.extend acme).resolvedName? "Acme Semiconductor" = some "Acme" := by
    decide +kernel
  have hkept : (builtin.extend acme).Keeps "Acme" := Or.inl (by decide +kernel)
  refine ⟨ofSettings_acme, hgiven, hkept, ?_⟩
  refine ((canonicalName_idempotent_iff ofSettings_acme).1 "Acme Semiconductor").mpr ?_
  intro name hname
  rw [hgiven] at hname
  exact Option.some_inj.mp hname ▸ hkept

/-- Display names that a registry does not keep: one is a name of another vendor, the other one has
a colon. -/
theorem canonicalName_not_idempotent :
    (∃ r, ofSettings { names := .ofList [("9000", "TI")] } = .ok r ∧
        r.canonicalName ":9000" = "TI" ∧
        r.canonicalName (r.canonicalName ":9000") = "Texas Instruments") ∧
      ∃ r, ofSettings { names := .ofList [("9000", "Acme: Tools")] } = .ok r ∧
        r.canonicalName ":9000" = "Acme: Tools" ∧
        r.canonicalName (r.canonicalName ":9000") = "Acme" := by
  refine ⟨⟨builtin.extend { names := .ofList [("9000", "TI")] }, ?_, ?_, ?_⟩,
    ⟨builtin.extend { names := .ofList [("9000", "Acme: Tools")] }, ?_, ?_, ?_⟩⟩ <;>
    decide +kernel

/-! ## Canonical names and full forms -/

/-- The display name for the name part of a vendor text, whatever id stands behind it. -/
def nameWithoutId (r : Registry) (vendor : String) : String :=
  ((r.idOf? (namePart vendor)).bind r.nameOf?).getD (namePart vendor)

theorem canonicalName_of_idPart {r : Registry} {vendor : String} (h : idPart vendor ≠ "") :
    r.canonicalName vendor = (r.nameOf? (idPart vendor)).getD (r.nameWithoutId vendor) := by
  rw [canonicalName_eq, resolvedName?, nameWithoutId, if_neg h]
  cases r.nameOf? (idPart vendor) <;> rfl

/-- A text without a retired id denotes the id by which it gets its canonical name. -/
theorem canonicalName_of_not_retired {r : Registry} {vendor id name : String}
    (hretired : r.successors.get? (idPart vendor) = none) (hid : r.idFor? vendor = some id)
    (hname : r.nameOf? id = some name) : r.canonicalName vendor = name := by
  unfold idFor? at hid
  split_ifs at hid with hempty
  · rw [canonicalName_eq, resolvedName?, if_pos hempty, hid, Option.bind_some, hname]
    rfl
  · rw [currentId, hretired, Option.getD_none, Option.some_inj] at hid
    rw [canonicalName_of_idPart hempty, hid, hname, Option.getD_some]

/-- For a retired id the canonical name is its own display name, or else that of the name part. -/
theorem canonicalName_of_retired {r : Registry} (hr : r.IsValid) {vendor new : String}
    (h : r.successors.get? (idPart vendor) = some new) :
    r.canonicalName vendor = (r.nameOf? (idPart vendor)).getD (r.nameWithoutId vendor) :=
  canonicalName_of_idPart (ne_empty_of_isId (hr.retired _ new h))

/-- **When the canonical name is that of the full form:** if the id is not retired, or what a
retired id gives is the same name. -/
theorem canonicalName_eq_iff {r : Registry} (hr : r.IsValid) {vendor id name : String}
    (hid : r.idFor? vendor = some id) (hname : r.nameOf? id = some name) :
    r.canonicalName vendor = name ↔ ∀ new, r.successors.get? (idPart vendor) = some new →
      (r.nameOf? (idPart vendor)).getD (r.nameWithoutId vendor) = name := by
  cases h : r.successors.get? (idPart vendor) with
  | none => exact iff_of_true (canonicalName_of_not_retired h hid hname) nofun
  | some new =>
    rw [canonicalName_of_retired hr h]
    exact ⟨fun heq _ _ => heq, fun heq => heq new rfl⟩

/-- Whether each retired id goes by the display name of its successor. -/
def RetiredKeepNames (r : Registry) : Prop :=
  ∀ old new name, r.successors.get? old = some new → r.nameOf? new = some name →
    r.nameOf? old = some name

theorem builtin_nameOf?_retired :
    ∀ old new, builtin.successors.get? old = some new →
      builtin.nameOf? old = builtin.nameOf? new := by
  decide +kernel

theorem builtin_retiredKeepNames : builtin.RetiredKeepNames :=
  fun old new _ hretired hname => (builtin_nameOf?_retired old new hretired).trans hname

theorem RetiredKeepNames.canonicalName_eq {r : Registry} (hr : r.IsValid)
    (hkeep : r.RetiredKeepNames) {vendor id name : String} (hid : r.idFor? vendor = some id)
    (hname : r.nameOf? id = some name) : r.canonicalName vendor = name := by
  rw [canonicalName_eq_iff hr hid hname]
  intro new hnew
  have hcurrent : some new = some id := by
    rw [idFor?, if_neg (ne_empty_of_isId (hr.retired _ new hnew)), currentId, hnew] at hid
    exact hid
  rw [hkeep _ new name hnew (Option.some_inj.mp hcurrent ▸ hname), Option.getD_some]

/-- If canonical names agree with full forms, retired ids go by the names of their successors: a
retired id alone has no name part to fall back on. -/
theorem retiredKeepNames_of_canonicalName {r : Registry} (hr : r.IsValid)
    (hagree : ∀ vendor id name, r.idFor? vendor = some id → r.nameOf? id = some name →
      r.canonicalName vendor = name) : r.RetiredKeepNames := by
  intro old new name hretired hname
  have hold : isId old = true := hr.retired old new hretired
  have hpart := idPart_colon_append (not_mem_colon_of_isId hold)
  have hid : r.idFor? (":" ++ old) = some new := by
    rw [idFor?, hpart, if_neg (ne_empty_of_isId hold), currentId, hretired, Option.getD_some]
  have hcanonical := hagree (":" ++ old) new name hid hname
  rw [canonicalName_of_retired hr (hpart.symm ▸ hretired), hpart, nameWithoutId,
    namePart_colon_append, hr.idOf?_empty] at hcanonical
  cases hown : r.nameOf? old with
  | some own =>
    rw [hown] at hcanonical
    exact congrArg some hcanonical
  | none =>
    rw [hown] at hcanonical
    exact absurd hcanonical.symm (hr.names new name hname).2

/-- **Canonical names and full forms.** The full form of a resolved text has the display name of
the current id, and this is the canonical name unless the id is retired and gives another one. So
canonical names agree with full forms exactly if retired ids go by the names of their successors,
and with the built-in tables alone they do. -/
theorem full_canonicalName {s : VendorSettings} {r : Registry} (h : ofSettings s = .ok r) :
    (∀ vendor id name, r.idFor? vendor = some id → r.nameOf? id = some name →
        r.full vendor = name ++ ":" ++ id ∧
          (r.canonicalName vendor = name ↔ ∀ new, r.successors.get? (idPart vendor) = some new →
            (r.nameOf? (idPart vendor)).getD (r.nameWithoutId vendor) = name)) ∧
      ((∀ vendor id name, r.idFor? vendor = some id → r.nameOf? id = some name →
          r.canonicalName vendor = name) ↔ r.RetiredKeepNames) ∧
      (s.isBuiltinOnly = true → ∀ vendor id name, r.idFor? vendor = some id →
        r.nameOf? id = some name → r.canonicalName vendor = name) := by
  have hr := isValid_of_ofSettings h
  refine ⟨?_, ⟨retiredKeepNames_of_canonicalName hr, ?_⟩, ?_⟩
  · intro vendor id name hid hname
    exact ⟨full_eq hid hname, canonicalName_eq_iff hr hid hname⟩
  · intro hkeep vendor id name hid hname
    exact hkeep.canonicalName_eq hr hid hname
  · intro hs vendor id name hid hname
    obtain rfl := eq_builtin_of_ofSettings h hs
    exact builtin_retiredKeepNames.canonicalName_eq hr hid hname

/-- A retired id without a display name, behind the name of its successor. -/
theorem full_canonicalName_acme :
    ofSettings acme = .ok (builtin.extend acme) ∧
      (builtin.extend acme).idFor? "Acme:8999" = some "9000" ∧
      (builtin.extend acme).nameOf? "9000" = some "Acme" ∧
      (builtin.extend acme).full "Acme:8999" = "Acme" ++ ":" ++ "9000" ∧
      ((builtin.extend acme).canonicalName "Acme:8999" = "Acme" ↔
        ∀ new, (builtin.extend acme).successors.get? (idPart "Acme:8999") = some new →
          ((builtin.extend acme).nameOf? (idPart "Acme:8999")).getD
            ((builtin.extend acme).nameWithoutId "Acme:8999") = "Acme") := by
  have hid : (builtin.extend acme).idFor? "Acme:8999" = some "9000" := by decide +kernel
  have hname : (builtin.extend acme).nameOf? "9000" = some "Acme" := by decide +kernel
  exact ⟨ofSettings_acme, hid, hname,
    (full_canonicalName ofSettings_acme).1 "Acme:8999" "9000" "Acme" hid hname⟩

/-- A retired id behind a name that is not known has one name in the full form and another one as
canonical name. -/
theorem canonicalName_ne_full :
    ofSettings acme = .ok (builtin.extend acme) ∧
      (builtin.extend acme).idFor? "Old Acme:8999" = some "9000" ∧
      (builtin.extend acme).nameOf? "9000" = some "Acme" ∧
      (builtin.extend acme).full "Old Acme:8999" = "Acme:9000" ∧
      (builtin.extend acme).canonicalName "Old Acme:8999" = "Old Acme" := by
  refine ⟨ofSettings_acme, ?_, ?_, ?_, ?_⟩ <;> decide +kernel

end Registry

end PackQuery.Vendor
