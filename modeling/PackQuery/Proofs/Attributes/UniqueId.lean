import PackQuery.Attributes.Identity
import PackQuery.Proofs.Text.Cut

/-!
# What a unique component id tells

A unique component id shows up to eight parts of a component, five of which may be missing, with
few marks between them: a dot is in front of the bundle, the group and the sub, and a colon in front
of the variant and the version.

**Plain parts** (`HasPlainParts`). If the marks do not stand in the parts, and there is a version,
each part has its place. The double colon ends vendor and bundle, the next colon ends class, group,
sub and condition, and what follows the last colon is the version.

**Unique ids** (`uniqueId_eq_iff`). So components with plain parts have one unique id exactly if
all eight parts are equal. The id is taken apart from the left to the right, a tail with its mark at
a time (`Text.append_inj_of_isTail`).
-/

namespace PackQuery.AttributeSet

variable {vendors : Vendor.Registry} {s t : AttributeSet}

/-! ## Plain parts -/

/-- Whether none of the marks of an id stands in a part. -/
def IsPlainPart (part : String) : Prop := ∀ mark ∈ ['.', ':', '(', ')'], mark ∉ part.toList

instance : DecidablePred IsPlainPart := fun part =>
  List.decidableBAll (fun mark => mark ∉ part.toList) ['.', ':', '(', ')']

/-- The attributes that a unique component id shows, besides vendor and version. -/
def shownKeys : List String :=
  [Key.bundle, Key.classification, Key.group, Key.sub, Key.condition, Key.variant]

/-- A component with a version whose parts are plain; the version may have any mark but a colon. -/
structure HasPlainParts (vendors : Vendor.Registry) (s : AttributeSet) : Prop where
  not_isApi : s.isApi = false
  vendorName : IsPlainPart (s.vendorName vendors)
  parts : ∀ key ∈ shownKeys, IsPlainPart (s.get key)
  version_ne : s.version ≠ ""
  version : ':' ∉ s.version.toList

/-! ## Optional parts -/

section
variable {mark : Char} {separator part part' : String}

theorem optionalPart_of_ne (h : part ≠ "") : optionalPart separator part = separator ++ part :=
  if_neg h

theorem optionalPart_isTail (h : separator.toList.head? = some mark) (part : String) :
    Text.IsTail mark (optionalPart separator part) := by
  unfold optionalPart
  split
  · exact Or.inl rfl
  · exact Text.isTail_append h part

theorem not_mem_optionalPart (hseparator : mark ∉ separator.toList) (hpart : mark ∉ part.toList) :
    mark ∉ (optionalPart separator part).toList := by
  unfold optionalPart
  split
  · simp
  · simp [hseparator, hpart]

theorem optionalPart_inj (hseparator : separator ≠ "")
    (h : optionalPart separator part = optionalPart separator part') : part = part' := by
  unfold optionalPart at h
  split at h <;> split at h
  · simp_all
  · simp_all
  · simp_all
  · exact (String.append_right_inj separator).mp h

end

/-! ## The parts of an id -/

def uniqueParts : Parts := { variant := true, version := true, condition := true }

/-- The double colon ends vendor and bundle, and the next colon class, group, sub and condition. -/
theorem uniqueId_eq (hs : HasPlainParts vendors s) :
    s.uniqueId vendors true =
      s.vendorAndBundle vendors ++
        ("::" ++ (s.classGroupSub '.' ++ s.conditionPart uniqueParts ++
          s.variantAndVersion uniqueParts)) := by
  simp [uniqueId, idWith, hs.not_isApi, componentText, uniqueParts, String.append_assoc]

theorem vendorAndBundle_eq (hs : HasPlainParts vendors s) :
    s.vendorAndBundle vendors = s.vendorName vendors ++ optionalPart "." (s.get Key.bundle) := by
  simp [vendorAndBundle, hs.not_isApi]

theorem classGroupSub_eq (s : AttributeSet) :
    s.classGroupSub '.' =
      s.get Key.classification ++
        ("." ++ (s.get Key.group ++ optionalPart "." (s.get Key.sub))) := by
  simp [classGroupSub, String.append_assoc]

theorem conditionPart_eq (s : AttributeSet) :
    s.conditionPart uniqueParts =
      optionalPart "("
        (if s.get Key.condition = "" then "" else s.get Key.condition ++ ")") := by
  by_cases h : s.get Key.condition = "" <;>
    simp [conditionPart, uniqueParts, optionalPart, h, String.append_assoc]

theorem variantAndVersion_eq (hs : HasPlainParts vendors s) :
    s.variantAndVersion uniqueParts =
      optionalPart ":" (s.get Key.variant) ++ (":" ++ s.version) := by
  simp [variantAndVersion, uniqueParts, optionalPart_of_ne hs.version_ne]

theorem not_mem_vendorAndBundle (hs : HasPlainParts vendors s) :
    ':' ∉ (s.vendorAndBundle vendors).toList := by
  have hvendor := hs.vendorName ':' (by decide)
  have hbundle := hs.parts Key.bundle (by decide) ':' (by decide)
  rw [vendorAndBundle_eq hs, String.toList_append, List.mem_append, not_or]
  exact ⟨hvendor, not_mem_optionalPart (by decide) hbundle⟩

theorem not_mem_classGroupSub (hs : HasPlainParts vendors s) {mark : Char}
    (hmark : mark ∈ ['.', ':', '(', ')']) (hdot : mark ∉ ".".toList) :
    mark ∉ (s.classGroupSub '.').toList := by
  have hclass := hs.parts Key.classification (by decide) mark hmark
  have hgroup := hs.parts Key.group (by decide) mark hmark
  have hsub := hs.parts Key.sub (by decide) mark hmark
  simp only [classGroupSub_eq, String.toList_append, List.mem_append, not_or]
  exact ⟨hclass, hdot, hgroup, not_mem_optionalPart hdot hsub⟩

theorem not_mem_conditionPart (hs : HasPlainParts vendors s) :
    ':' ∉ (s.conditionPart uniqueParts).toList := by
  have hcondition := hs.parts Key.condition (by decide) ':' (by decide)
  rw [conditionPart_eq]
  refine not_mem_optionalPart (by decide) ?_
  split <;> simp [hcondition]

/-! ## Taking an id apart -/

theorem vendorAndBundle_inj (hs : HasPlainParts vendors s) (ht : HasPlainParts vendors t)
    (h : s.vendorAndBundle vendors = t.vendorAndBundle vendors) :
    s.vendorName vendors = t.vendorName vendors ∧ s.get Key.bundle = t.get Key.bundle := by
  rw [vendorAndBundle_eq hs, vendorAndBundle_eq ht] at h
  obtain ⟨hvendor, hbundle⟩ := Text.append_inj_of_isTail (hs.vendorName '.' (by decide))
    (ht.vendorName '.' (by decide)) (optionalPart_isTail rfl _) (optionalPart_isTail rfl _) h
  exact ⟨hvendor, optionalPart_inj (by decide) hbundle⟩

theorem classGroupSub_inj (hs : HasPlainParts vendors s) (ht : HasPlainParts vendors t)
    (h : s.classGroupSub '.' = t.classGroupSub '.') :
    s.get Key.classification = t.get Key.classification ∧
      s.get Key.group = t.get Key.group ∧ s.get Key.sub = t.get Key.sub := by
  rw [classGroupSub_eq, classGroupSub_eq] at h
  obtain ⟨hclass, h⟩ := Text.append_inj_of_isTail
    (hs.parts Key.classification (by decide) '.' (by decide))
    (ht.parts Key.classification (by decide) '.' (by decide))
    (Text.isTail_append rfl _) (Text.isTail_append rfl _) h
  rw [String.append_right_inj] at h
  obtain ⟨hgroup, hsub⟩ := Text.append_inj_of_isTail
    (hs.parts Key.group (by decide) '.' (by decide))
    (ht.parts Key.group (by decide) '.' (by decide))
    (optionalPart_isTail rfl _) (optionalPart_isTail rfl _) h
  exact ⟨hclass, hgroup, optionalPart_inj (by decide) hsub⟩

theorem conditionPart_inj (h : s.conditionPart uniqueParts = t.conditionPart uniqueParts) :
    s.get Key.condition = t.get Key.condition := by
  rw [conditionPart_eq, conditionPart_eq] at h
  have hclosed := optionalPart_inj (by decide) h
  have hne : ∀ part : String, part ++ ")" ≠ "" := by simp
  by_cases hs : s.get Key.condition = "" <;> by_cases ht : t.get Key.condition = ""
  · rw [hs, ht]
  · rw [if_pos hs, if_neg ht] at hclosed
    exact absurd hclosed.symm (hne _)
  · rw [if_neg hs, if_pos ht] at hclosed
    exact absurd hclosed (hne _)
  · rw [if_neg hs, if_neg ht] at hclosed
    exact (String.append_left_inj ")").mp hclosed

theorem variantAndVersion_inj (hs : HasPlainParts vendors s) (ht : HasPlainParts vendors t)
    (h : s.variantAndVersion uniqueParts = t.variantAndVersion uniqueParts) :
    s.get Key.variant = t.get Key.variant ∧ s.version = t.version := by
  rw [variantAndVersion_eq hs, variantAndVersion_eq ht, ← String.append_assoc,
    ← String.append_assoc] at h
  obtain ⟨hvariant, hversion⟩ := Text.append_separator_inj rfl hs.version ht.version h
  exact ⟨optionalPart_inj (by decide) hvariant, hversion⟩

theorem variantAndVersion_isTail (hs : HasPlainParts vendors s) :
    Text.IsTail ':' (s.variantAndVersion uniqueParts) := by
  rw [variantAndVersion_eq hs]
  unfold optionalPart
  split
  · rw [String.empty_append]
    exact Text.isTail_append rfl _
  · rw [String.append_assoc]
    exact Text.isTail_append rfl _

/-- An id is cut at the double colon, then at the next colon, then at the parenthesis. -/
theorem uniqueId_inj (hs : HasPlainParts vendors s) (ht : HasPlainParts vendors t)
    (h : s.uniqueId vendors true = t.uniqueId vendors true) :
    s.vendorAndBundle vendors = t.vendorAndBundle vendors ∧
      s.classGroupSub '.' = t.classGroupSub '.' ∧
      s.conditionPart uniqueParts = t.conditionPart uniqueParts ∧
      s.variantAndVersion uniqueParts = t.variantAndVersion uniqueParts := by
  have hbody : ∀ {u : AttributeSet}, HasPlainParts vendors u →
      ':' ∉ (u.classGroupSub '.' ++ u.conditionPart uniqueParts).toList := by
    intro u hu
    rw [String.toList_append, List.mem_append, not_or]
    exact ⟨not_mem_classGroupSub hu (by decide) (by decide), not_mem_conditionPart hu⟩
  have hcondition : ∀ u : AttributeSet, Text.IsTail '(' (u.conditionPart uniqueParts) := by
    intro u
    rw [conditionPart_eq]
    exact optionalPart_isTail rfl _
  rw [uniqueId_eq hs, uniqueId_eq ht] at h
  obtain ⟨howner, h⟩ := Text.append_inj_of_isTail (not_mem_vendorAndBundle hs)
    (not_mem_vendorAndBundle ht) (Text.isTail_append rfl _) (Text.isTail_append rfl _) h
  rw [String.append_right_inj] at h
  obtain ⟨h, htail⟩ := Text.append_inj_of_isTail (hbody hs) (hbody ht)
    (variantAndVersion_isTail hs) (variantAndVersion_isTail ht) h
  obtain ⟨hclass, hcond⟩ := Text.append_inj_of_isTail
    (not_mem_classGroupSub hs (by decide) (by decide))
    (not_mem_classGroupSub ht (by decide) (by decide)) (hcondition s) (hcondition t) h
  exact ⟨howner, hclass, hcond, htail⟩

/-- **A unique id identifies the component.** Where parts are plain, ids are equal exactly if
vendor, bundle, class, group, sub, condition, variant and version are. -/
theorem uniqueId_eq_iff (hs : HasPlainParts vendors s) (ht : HasPlainParts vendors t) :
    s.uniqueId vendors true = t.uniqueId vendors true ↔
      s.vendorName vendors = t.vendorName vendors ∧
        s.get Key.bundle = t.get Key.bundle ∧
        s.get Key.classification = t.get Key.classification ∧
        s.get Key.group = t.get Key.group ∧
        s.get Key.sub = t.get Key.sub ∧
        s.get Key.condition = t.get Key.condition ∧
        s.get Key.variant = t.get Key.variant ∧
        s.version = t.version := by
  constructor
  · intro h
    obtain ⟨howner, hclassGroupSub, hcondition, htail⟩ := uniqueId_inj hs ht h
    obtain ⟨hvendor, hbundle⟩ := vendorAndBundle_inj hs ht howner
    obtain ⟨hclass, hgroup, hsub⟩ := classGroupSub_inj hs ht hclassGroupSub
    obtain ⟨hvariant, hversion⟩ := variantAndVersion_inj hs ht htail
    exact ⟨hvendor, hbundle, hclass, hgroup, hsub, conditionPart_inj hcondition, hvariant,
      hversion⟩
  · rintro ⟨hvendor, hbundle, hclass, hgroup, hsub, hcondition, hvariant, hversion⟩
    rw [uniqueId_eq hs, uniqueId_eq ht, vendorAndBundle_eq hs, vendorAndBundle_eq ht,
      classGroupSub_eq, classGroupSub_eq, conditionPart_eq, conditionPart_eq,
      variantAndVersion_eq hs, variantAndVersion_eq ht, hvendor, hbundle, hclass, hgroup, hsub,
      hcondition, hvariant, hversion]

/-- A device of a vendor that is written in two ways, with an empty sub or none. -/
def device (vendor : String) (subs : List (String × String)) : AttributeSet :=
  .ofPairs ([(Key.componentVendor, vendor), (Key.classification, "Device"),
    (Key.group, "Startup"), (Key.condition, "Cortex"), (Key.componentVersion, "1.0.0-b(2)")] ++ subs)

theorem hasPlainParts_device :
    HasPlainParts .builtin (device "TI:16" [(Key.sub, "")]) ∧
      HasPlainParts .builtin (device "Texas Instruments" []) := by
  refine ⟨⟨?_, ?_, ?_, ?_, ?_⟩, ⟨?_, ?_, ?_, ?_, ?_⟩⟩ <;> decide +kernel

theorem uniqueId_eq_iff_device :
    HasPlainParts .builtin (device "TI:16" [(Key.sub, "")]) ∧
      HasPlainParts .builtin (device "Texas Instruments" []) ∧
      (device "TI:16" [(Key.sub, "")]).uniqueId .builtin true =
        (device "Texas Instruments" []).uniqueId .builtin true ∧
      (device "TI:16" [(Key.sub, "")]).vendorName .builtin =
        (device "Texas Instruments" []).vendorName .builtin ∧
      (device "TI:16" [(Key.sub, "")]).get Key.sub =
        (device "Texas Instruments" []).get Key.sub := by
  obtain ⟨hs, ht⟩ := hasPlainParts_device
  have hid : (device "TI:16" [(Key.sub, "")]).uniqueId .builtin true =
      (device "Texas Instruments" []).uniqueId .builtin true := by decide +kernel
  obtain ⟨hvendor, -, -, -, hsub, -⟩ := (uniqueId_eq_iff hs ht).mp hid
  exact ⟨hs, ht, hid, hvendor, hsub⟩

end PackQuery.AttributeSet
