import PackQuery.Proofs.Settings.Registry

/-!
# Merging settings

Settings are laid over one another: those of a preset over those of a file, and a file over the
defaults.

**Layers** (`IsLayering`). It does not matter how layers are grouped, a layer over itself is that
layer, and the defaults are a layer that changes nothing. This holds of each part of the settings,
and so of the whole (`Settings.isLayering_merge`).

**Registries** (`Settings.ofSettings_merge`). Precedence is decided twice, where settings are merged
and where they are laid over the built-in tables. In the registry of merged settings the upper
settings answer first, then the lower ones, and then the built-in tables if both build on them.
-/

namespace PackQuery

/-! ## Layers -/

/-- Whether an operation lays values over one another, with a value that changes nothing. -/
structure IsLayering {α : Type} (merge : α → α → α) (bottom : α) : Prop where
  assoc : ∀ a b c, merge (merge a b) c = merge a (merge b c)
  self : ∀ a, merge a a = a
  merge_bottom : ∀ a, merge a bottom = a
  bottom_merge : ∀ a, merge bottom a = a

theorem Dict.isLayering_overlay {α : Type} : IsLayering (overlay (α := α)) empty where
  assoc := overlay_assoc
  self := overlay_self
  merge_bottom := overlay_empty
  bottom_merge := empty_overlay

theorem MatchingSettings.isLayering_merge : IsLayering merge {} where
  assoc a b c := by simp only [merge, Bool.and_assoc, Bool.or_assoc]
  self a := by simp only [merge, Bool.and_self, Bool.or_self]
  merge_bottom a := by simp only [merge, Bool.and_true, Bool.or_false]
  bottom_merge a := by simp only [merge, Bool.true_and, Bool.false_or]

theorem VendorSettings.isLayering_merge : IsLayering merge {} where
  assoc a b c := by simp only [merge, Bool.and_assoc, Dict.isLayering_overlay.assoc]
  self a := by simp only [merge, Bool.and_self, Dict.isLayering_overlay.self]
  merge_bottom a := by simp only [merge, Bool.and_true, Dict.isLayering_overlay.merge_bottom]
  bottom_merge a := by simp only [merge, Bool.true_and, Dict.isLayering_overlay.bottom_merge]

theorem OutputSettings.isLayering_merge : IsLayering merge {} where
  assoc a b c := by
    unfold merge
    split_ifs <;> rfl
  self a := by
    unfold merge
    split_ifs <;> rfl
  merge_bottom a := rfl
  bottom_merge a := by
    unfold merge
    split_ifs with h
    · cases a
      cases h
      rfl
    · rfl

theorem Settings.isLayering_merge : IsLayering merge {} where
  assoc a b c := by
    simp only [merge, MatchingSettings.isLayering_merge.assoc,
      VendorSettings.isLayering_merge.assoc, OutputSettings.isLayering_merge.assoc]
  self a := by
    simp only [merge, MatchingSettings.isLayering_merge.self,
      VendorSettings.isLayering_merge.self, OutputSettings.isLayering_merge.self]
  merge_bottom a := by
    simp only [merge, MatchingSettings.isLayering_merge.merge_bottom,
      VendorSettings.isLayering_merge.merge_bottom, OutputSettings.isLayering_merge.merge_bottom]
  bottom_merge a := by
    simp only [merge, MatchingSettings.isLayering_merge.bottom_merge,
      VendorSettings.isLayering_merge.bottom_merge, OutputSettings.isLayering_merge.bottom_merge]

/-! ## Registries of merged settings -/

open Vendor Registry

namespace VendorSettings

variable {a b : VendorSettings}

/-- An entry of merged settings is one of the upper or of the lower settings, as it is there. -/
theorem faults_merge (ha : a.faults = []) (hb : b.faults = []) : (a.merge b).faults = [] := by
  rw [faults_eq_nil_iff] at ha hb ⊢
  exact ⟨Dict.forall_get?_overlay ha.1 hb.1, Dict.forall_get?_overlay ha.2.1 hb.2.1,
    Dict.forall_get?_overlay ha.2.2 hb.2.2⟩

/-- What the settings `a` with `b` over them say of a key: what `b` says in a table, else what `a`
says there, else what the built-in table says if both build on it. -/
def layered (a b : VendorSettings) (table : VendorSettings → Dict String)
    (builtinTable : Dict String) (key : String) : Option String :=
  ((table b).get? key).or <| ((table a).get? key).or <|
    if a.useBuiltins ∧ b.useBuiltins then builtinTable.get? key else none

/-- A look-up in a table of the registry of merged settings. -/
theorem get?_layered (table : VendorSettings → Dict String) (part : Registry → Dict String)
    (hmerge : table (a.merge b) = (table a).overlay (table b)) (hempty : part empty = .empty)
    (key : String) :
    ((part (if (a.merge b).useBuiltins then builtin else empty)).overlay
      (table (a.merge b))).get? key = a.layered b table (part builtin) key := by
  have hstart : (part (if (a.merge b).useBuiltins then builtin else empty)).get? key =
      if a.useBuiltins ∧ b.useBuiltins then (part builtin).get? key else none := by
    simp only [merge, Bool.and_eq_true]
    split_ifs
    · rfl
    · rw [hempty, Dict.get?_empty]
  rw [hmerge, Dict.get?_overlay, Dict.get?_overlay, Option.or_assoc, hstart, layered]

end VendorSettings

namespace Settings

/-- **Merged settings lay their registries over one another.** If two settings are accepted, so are
the merged ones, and in their registry the upper ones answer before the lower ones, and these before
the built-in tables. Layers can be grouped and repeated at will, and the defaults change nothing. -/
theorem ofSettings_merge :
    (∀ (a b : Settings) (ra rb : Registry), ofSettings a.vendors = .ok ra →
        ofSettings b.vendors = .ok rb → ∃ r, ofSettings (a.merge b).vendors = .ok r ∧
          (∀ name, r.idOf? name = a.vendors.layered b.vendors (·.aliases) builtinIds name) ∧
          (∀ id, r.nameOf? id = a.vendors.layered b.vendors (·.names) builtinNames id) ∧
          ∀ id, r.successors.get? id =
            a.vendors.layered b.vendors (·.legacyIds) builtinSuccessors id) ∧
      IsLayering merge {} := by
  refine ⟨fun a b ra rb ha hb => ?_, isLayering_merge⟩
  have hfaults : (a.vendors.merge b.vendors).faults = [] :=
    VendorSettings.faults_merge (ofSettings_eq_ok_iff.mp ha).1 (ofSettings_eq_ok_iff.mp hb).1
  exact ⟨_, ofSettings_eq_ok_iff.mpr ⟨hfaults, rfl⟩,
    VendorSettings.get?_layered (·.aliases) (·.ids) rfl rfl,
    VendorSettings.get?_layered (·.names) (·.names) rfl rfl,
    VendorSettings.get?_layered (·.legacyIds) (·.successors) rfl rfl⟩

/-- Settings that give a name of other ones another id, and that do without the built-in tables. -/
def acmeTools : VendorSettings :=
  { useBuiltins := false
    aliases := .ofList [("Acme", "9001")]
    names := .ofList [("9001", "Acme Tools")] }

/-- Of two settings with one name in common the upper ones answer for it. -/
theorem ofSettings_merge_acme :
    ofSettings acme = .ok (builtin.extend acme) ∧
      ofSettings acmeTools = .ok (empty.extend acmeTools) ∧
      ∃ r, ofSettings (acme.merge acmeTools) = .ok r ∧
        r.idOf? "Acme" = some "9001" ∧ r.idOf? "Acme Semiconductor" = some "9000" ∧
        r.idOf? "NXP" = none ∧ r.nameOf? "9000" = some "Acme" ∧
        r.successors.get? "8999" = some "9000" := by
  have htools : ofSettings acmeTools = .ok (empty.extend acmeTools) :=
    ofSettings_eq_ok_iff.mpr ⟨by decide +kernel, rfl⟩
  obtain ⟨r, hr, hids, hnames, hretired⟩ :=
    ofSettings_merge.1 { vendors := acme } { vendors := acmeTools } _ _ ofSettings_acme htools
  refine ⟨ofSettings_acme, htools, r, hr, ?_, ?_, ?_, ?_, ?_⟩
  · rw [hids]
    decide +kernel
  · rw [hids]
    decide +kernel
  · rw [hids]
    decide +kernel
  · rw [hnames]
    decide +kernel
  · rw [hretired]
    decide +kernel

end Settings

end PackQuery
