import PackQuery.Version.Basic
import PackQuery.Proofs.NaturalOrder

/-!
# The scaled order of versions

Comparing two versions gives a rank with a sign: which version is lower, and how far apart the
two are. This file shows that both parts obey one law.

**Scaled orders** (`IsScaledOrder`). Swapping the versions changes the sign of the result, and
over two steps upwards the result is that of the wider step. So the signs form a total preorder,
and versions that compare equal are interchangeable in every comparison, ranks included.

**Construction.** An order with a fixed rank is scaled. So is a scaled order whose ties are broken
by another one of no greater ranks (`IsScaledOrder.orElse`), which is how segments follow each
other and the release follows the segments. The chain of releases is handled by recursion: each
of its steps breaks the ties of the segments by the rest of the chain.

Main result: `compare_isScaledOrder`.
-/

namespace PackQuery

/-! ## Results of comparisons -/

/-- The result of the first comparison, unless it shows no difference: then that of the second. -/
def orElse (first second : Int) : Int := if first = 0 then second else first

/-- No difference, or one whose rank is from `lo` to `hi`. -/
def InScale (lo hi : Nat) (result : Int) : Prop :=
  result = 0 ∨ lo ≤ result.natAbs ∧ result.natAbs ≤ hi

/-- The results for two steps and for both together fit: if no step goes down, both together are
as wide as the wider one. -/
def Composes (first second both : Int) : Prop :=
  first ≤ 0 → second ≤ 0 → both = min first second

theorem orElse_zero (second : Int) : orElse 0 second = second := rfl

theorem orElse_of_ne {first : Int} (h : first ≠ 0) (second : Int) :
    orElse first second = first :=
  if_neg h

theorem orElse_neg (first second : Int) : orElse (-first) (-second) = -orElse first second := by
  unfold orElse
  split <;> split <;> omega

theorem orElse_assoc (first second third : Int) :
    orElse (orElse first second) third = orElse first (orElse second third) := by
  by_cases h : first = 0
  · rw [h, orElse_zero, orElse_zero]
  · rw [orElse_of_ne h, orElse_of_ne h, orElse_of_ne h]

theorem sign_orElse (first second : Int) :
    (orElse first second).sign = orElse first.sign second.sign := by
  by_cases h : first = 0
  · rw [h, Int.sign_zero, orElse_zero, orElse_zero]
  · rw [orElse_of_ne h, orElse_of_ne (mt Int.sign_eq_zero_iff_zero.mp h)]

theorem nonpos_of_orElse {first second : Int} (h : orElse first second ≤ 0) : first ≤ 0 := by
  by_cases h0 : first = 0
  · exact Int.le_of_eq h0
  · rwa [orElse_of_ne h0] at h

theorem orElse_pos {first second : Int} (h : 0 ≤ first) (h' : 0 < second) :
    0 < orElse first second := by
  by_cases h0 : first = 0
  · rwa [h0, orElse_zero]
  · rw [orElse_of_ne h0]
    omega

theorem InScale.neg_le {lo hi : Nat} {x : Int} (h : InScale lo hi x) : -(hi : Int) ≤ x := by
  unfold InScale at h
  omega

theorem InScale.le_neg {lo hi : Nat} {x : Int} (h : InScale lo hi x) (hx : x < 0) :
    x ≤ -(lo : Int) := by
  unfold InScale at h
  omega

theorem InScale.sign_eq {x : Int} (h : InScale 1 1 x) : x.sign = x := by
  have hcases : x = 0 ∨ x = 1 ∨ x = -1 := by
    unfold InScale at h
    omega
  rcases hcases with rfl | rfl | rfl <;> rfl

theorem InScale.orElse {lo mid hi : Nat} {x y : Int} (hx : InScale mid hi x)
    (hy : InScale lo mid y) (hlo : lo ≤ mid) (hhi : mid ≤ hi) : InScale lo hi (orElse x y) := by
  by_cases h0 : x = 0
  · rw [h0, orElse_zero]
    exact hy.imp_right fun h => ⟨h.1, Nat.le_trans h.2 hhi⟩
  · rw [orElse_of_ne h0]
    exact hx.imp_right fun h => ⟨Nat.le_trans hlo h.1, h.2⟩

/-- Ties that are broken by ranks that are no greater: a step that is no tie is at least as wide
as any broken tie beside it. -/
theorem Composes.orElse {lo mid hi : Nat} {x₁ x₂ x₃ y₁ y₂ y₃ : Int} (hx : Composes x₁ x₂ x₃)
    (hy : Composes y₁ y₂ y₃) (hx₁ : InScale mid hi x₁) (hx₂ : InScale mid hi x₂)
    (hy₁ : InScale lo mid y₁) (hy₂ : InScale lo mid y₂) :
    Composes (orElse x₁ y₁) (orElse x₂ y₂) (orElse x₃ y₃) := by
  intro h₁ h₂
  have hle₁ := nonpos_of_orElse h₁
  have hle₂ := nonpos_of_orElse h₂
  have hx₃ := hx hle₁ hle₂
  by_cases e₁ : x₁ = 0 <;> by_cases e₂ : x₂ = 0
  · subst e₁ e₂
    rw [hx₃, Int.min_self, orElse_zero, orElse_zero, orElse_zero]
    exact hy h₁ h₂
  · subst e₁
    have hwide : x₂ ≤ y₁ := Int.le_trans (hx₂.le_neg (by omega)) hy₁.neg_le
    rw [hx₃, Int.min_eq_right hle₂, orElse_zero, orElse_of_ne e₂, orElse_of_ne e₂,
      Int.min_eq_right hwide]
  · subst e₂
    have hwide : x₁ ≤ y₂ := Int.le_trans (hx₁.le_neg (by omega)) hy₂.neg_le
    rw [hx₃, Int.min_eq_left hle₁, orElse_zero, orElse_of_ne e₁, orElse_of_ne e₁,
      Int.min_eq_left hwide]
  · have hne : min x₁ x₂ ≠ 0 := by omega
    rw [hx₃, orElse_of_ne e₁, orElse_of_ne e₂, orElse_of_ne hne]

theorem sign_le_sign {x y : Int} (h : x ≤ y) : x.sign ≤ y.sign := by
  rcases lt_trichotomy y 0 with hy | hy | hy
  · rw [Int.sign_eq_neg_one_of_neg hy, Int.sign_eq_neg_one_of_neg (lt_of_le_of_lt h hy)]
  · rw [hy, Int.sign_zero, Int.sign_nonpos_iff]
    exact hy ▸ h
  · rw [Int.sign_eq_one_of_pos hy]
    rcases Int.sign_trichotomy x with hx | hx | hx <;> omega

/-- Forgetting the rank keeps the law. -/
theorem Composes.sign {x y z : Int} (h : Composes x y z) : Composes x.sign y.sign z.sign := by
  intro hx hy
  rw [Int.sign_nonpos_iff] at hx hy
  rw [h hx hy]
  rcases Int.le_total x y with hxy | hxy
  · rw [Int.min_eq_left hxy, Int.min_eq_left (sign_le_sign hxy)]
  · rw [Int.min_eq_right hxy, Int.min_eq_right (sign_le_sign hxy)]

theorem scaled_nonneg {rank : Int} (hrank : 0 ≤ rank) {o : Ordering} (h : o ≠ .lt) :
    0 ≤ Version.scaled rank o := by
  cases o with
  | lt => exact absurd rfl h
  | eq => exact le_rfl
  | gt => exact hrank

theorem inScale_scaled {rank hi : Nat} (hhi : rank ≤ hi) (o : Ordering) :
    InScale rank hi (Version.scaled rank o) := by
  cases o <;> simp [Version.scaled, InScale, hhi]

/-! ## Scaled orders -/

/-- A comparison whose results are ranks from `lo` to `hi` with a sign. -/
structure IsScaledOrder {α : Type} (lo hi : Nat) (c : α → α → Int) : Prop where
  /-- The other way round the sign changes and the rank does not. -/
  swap : ∀ x y, c y x = -c x y
  /-- Over two steps upwards the wider one counts. -/
  compose : ∀ x y z, Composes (c x y) (c y z) (c x z)
  inScale : ∀ x y, InScale lo hi (c x y)

namespace IsScaledOrder

variable {α β : Type} {lo mid hi : Nat} {c d : α → α → Int}

theorem self (h : IsScaledOrder lo hi c) (x : α) : c x x = 0 := by
  have := h.swap x x
  omega

/-- The result grows with the left side. -/
theorem mono (h : IsScaledOrder lo hi c) {x y : α} (hxy : c x y ≤ 0) (z : α) :
    c x z ≤ c y z := by
  have hzy := h.swap y z
  have hzx := h.swap x z
  rcases Int.le_total (c y z) 0 with hyz | hyz
  · -- Both steps go up, so the result is at most that of the second.
    have hmin := h.compose x y z hxy hyz
    omega
  · rcases Int.le_total (c x z) 0 with hxz | hxz
    · omega
    · -- From `z` to `x` to `y` it goes up as well.
      have hmin := h.compose z x y (by omega) hxy
      omega

theorem trans (h : IsScaledOrder lo hi c) {x y z : α} (hxy : c x y ≤ 0) (hyz : c y z ≤ 0) :
    c x z ≤ 0 :=
  Int.le_trans (h.mono hxy z) hyz

theorem lt_of_lt_of_le (h : IsScaledOrder lo hi c) {x y z : α} (hxy : c x y < 0)
    (hyz : c y z ≤ 0) : c x z < 0 := by
  rw [h.compose x y z hxy.le hyz]
  exact (min_le_left _ _).trans_lt hxy

theorem lt_of_le_of_lt (h : IsScaledOrder lo hi c) {x y z : α} (hxy : c x y ≤ 0)
    (hyz : c y z < 0) : c x z < 0 := by
  rw [h.compose x y z hxy hyz.le]
  exact (min_le_right _ _).trans_lt hyz

theorem congr_left (h : IsScaledOrder lo hi c) {x y : α} (hxy : c x y = 0) (z : α) :
    c x z = c y z := by
  have hyx := h.swap x y
  exact Int.le_antisymm (h.mono (by omega) z) (h.mono (by omega) z)

theorem congr_right (h : IsScaledOrder lo hi c) {x y : α} (hxy : c x y = 0) (z : α) :
    c z x = c z y := by
  rw [h.swap x z, h.swap y z, h.congr_left hxy z]

theorem comap (h : IsScaledOrder lo hi c) (f : β → α) :
    IsScaledOrder lo hi fun x y => c (f x) (f y) :=
  ⟨fun x y => h.swap (f x) (f y), fun x y z => h.compose (f x) (f y) (f z),
    fun x y => h.inScale (f x) (f y)⟩

/-- The signs of the results are a total preorder. -/
theorem transCmp (h : IsScaledOrder lo hi c) :
    Std.TransCmp fun x y => Ord.compare (c x y) (0 : Int) where
  eq_swap {x y} := by
    rw [h.swap x y]
    rcases lt_trichotomy (c x y) 0 with hlt | heq | hgt
    · rw [Std.compare_eq_lt.mpr hlt, Std.compare_eq_gt.mpr (Int.neg_pos_of_neg hlt)]
      rfl
    · rw [heq]
      rfl
    · rw [Std.compare_eq_gt.mpr hgt, Std.compare_eq_lt.mpr (Int.neg_neg_of_pos hgt)]
      rfl
  isLE_trans {x y z} hxy hyz := by
    rw [Std.isLE_compare] at hxy hyz ⊢
    exact h.trans hxy hyz

/-- Breaking ties by ranks that are no greater. -/
theorem orElse (hc : IsScaledOrder mid hi c) (hd : IsScaledOrder lo mid d) (hlo : lo ≤ mid)
    (hhi : mid ≤ hi) : IsScaledOrder lo hi fun x y => PackQuery.orElse (c x y) (d x y) where
  swap x y := by
    rw [hc.swap x y, hd.swap x y, orElse_neg]
  compose x y z := (hc.compose x y z).orElse (hd.compose x y z) (hc.inScale x y)
    (hc.inScale y z) (hd.inScale x y) (hd.inScale y z)
  inScale x y := (hc.inScale x y).orElse (hd.inScale x y) hlo hhi

theorem not_scaled_gt_nonpos {rank : Nat} (hrank : 0 < rank) :
    ¬Version.scaled rank .gt ≤ 0 :=
  Int.not_le.mpr (Int.natCast_pos.mpr hrank)

/-- An order with one rank. -/
theorem scaled {rank hi : Nat} (hrank : 0 < rank) (hhi : rank ≤ hi) (cmp : α → α → Ordering)
    [Std.TransCmp cmp] : IsScaledOrder rank hi fun x y => Version.scaled rank (cmp x y) where
  swap x y := by
    rw [@Std.OrientedCmp.eq_swap α cmp _ y x]
    cases cmp x y <;> simp [Version.scaled]
  compose x y z := by
    intro hxy hyz
    cases exy : cmp x y with
    | lt =>
      cases eyz : cmp y z with
      | lt => rw [Std.TransCmp.lt_trans exy eyz, Int.min_self]
      | eq =>
        rw [Std.TransCmp.lt_of_lt_of_eq exy eyz]
        exact (Int.min_eq_left (exy ▸ hxy)).symm
      | gt =>
        rw [eyz] at hyz
        exact absurd hyz (not_scaled_gt_nonpos hrank)
    | eq =>
      rw [Std.TransCmp.congr_left exy]
      exact (Int.min_eq_right hyz).symm
    | gt =>
      rw [exy] at hxy
      exact absurd hxy (not_scaled_gt_nonpos hrank)
  inScale x y := inScale_scaled hhi (cmp x y)

end IsScaledOrder

namespace Version

/-! ## Segments and releases -/

/-- Segments break each other's ties. -/
theorem compareSegments_eq (sensitive : Bool) (v w : Version) :
    compareSegments sensitive v w =
      orElse (scaled 3 (NaturalOrder.compareChars sensitive v.major w.major))
        (orElse (scaled 2 (NaturalOrder.compareChars sensitive v.minor w.minor))
          (scaled 1 (NaturalOrder.compareChars sensitive v.patch w.patch))) := by
  unfold compareSegments
  cases NaturalOrder.compareChars sensitive v.major w.major with
  | lt | gt => rfl
  | eq => cases NaturalOrder.compareChars sensitive v.minor w.minor <;> rfl

theorem compareSegments_isScaledOrder (sensitive : Bool) :
    IsScaledOrder 1 3 (compareSegments sensitive) := by
  have hmajor : IsScaledOrder 3 3 fun v w =>
      scaled 3 (NaturalOrder.compareChars sensitive (major v) (major w)) :=
    (IsScaledOrder.scaled (by decide) (by decide) _).comap major
  have hminor : IsScaledOrder 2 3 fun v w =>
      scaled 2 (NaturalOrder.compareChars sensitive (minor v) (minor w)) :=
    (IsScaledOrder.scaled (by decide) (by decide) _).comap minor
  have hpatch : IsScaledOrder 1 2 fun v w =>
      scaled 1 (NaturalOrder.compareChars sensitive (patch v) (patch w)) :=
    (IsScaledOrder.scaled (by decide) (by decide) _).comap patch
  have heq := funext fun v => funext fun w => compareSegments_eq sensitive v w
  rw [heq]
  exact hmajor.orElse (hminor.orElse hpatch (by decide) (by decide)) (by decide) (by decide)

/-- Two releases are compared by their segments, whose ties the rest of the chain breaks. -/
theorem compareReleases_some_some (s t : List Char) :
    compareReleases (some s) (some t) =
      orElse (compareSegments false (ofChars s) (ofChars t)).sign
        (compareReleases (ofChars s).release (ofChars t).release) := by
  rw [compareReleases]
  simp [orElse]

theorem compareReleases_none_none : compareReleases none none = 0 := by rw [compareReleases]

theorem compareReleases_none_some (t : List Char) : compareReleases none (some t) = 1 := by
  rw [compareReleases]

theorem compareReleases_some_none (s : List Char) : compareReleases (some s) none = -1 := by
  rw [compareReleases]

theorem compareReleases_swap : ∀ s t, compareReleases t s = -compareReleases s t
  | none, none => by rw [compareReleases_none_none, Int.neg_zero]
  | none, some t => by rw [compareReleases_none_some, compareReleases_some_none]
  | some s, none => by rw [compareReleases_none_some, compareReleases_some_none, Int.neg_neg]
  | some s, some t => by
    rw [compareReleases_some_some, compareReleases_some_some,
      (compareSegments_isScaledOrder false).swap (ofChars s), Int.sign_neg,
      compareReleases_swap (ofChars s).release, orElse_neg]
termination_by s => remaining s
decreasing_by exact remaining_release_lt s

theorem inScale_sign (x : Int) : InScale 1 1 x.sign := by
  unfold InScale
  rcases Int.sign_trichotomy x with h | h | h <;> simp [h]

theorem inScale_compareReleases : ∀ s t, InScale 1 1 (compareReleases s t)
  | none, none => Or.inl compareReleases_none_none
  | none, some t => by rw [compareReleases_none_some]; exact Or.inr (by decide)
  | some s, none => by rw [compareReleases_some_none]; exact Or.inr (by decide)
  | some s, some t => by
    rw [compareReleases_some_some]
    exact (inScale_sign _).orElse (inScale_compareReleases (ofChars s).release _) (by decide)
      (by decide)
termination_by s => remaining s
decreasing_by exact remaining_release_lt s

/-- The absent release is the greatest one, and between two that are present the rest of the chain
breaks the ties of the segments. -/
theorem composes_compareReleases : ∀ s t u,
    Composes (compareReleases s t) (compareReleases t u) (compareReleases s u)
  | none, none, u => by
    intro _ h
    rw [compareReleases_none_none]
    exact (Int.min_eq_right h).symm
  | none, some t, _ => by
    intro h _
    rw [compareReleases_none_some] at h
    exact absurd h (by decide)
  | some s, none, none => by
    intro _ _
    rw [compareReleases_some_none, compareReleases_none_none]
    rfl
  | some s, none, some u => by
    intro _ h
    rw [compareReleases_none_some] at h
    exact absurd h (by decide)
  | some s, some t, none => by
    -- Nothing is wider than the last step, to the absent release.
    intro _ _
    rw [compareReleases_some_none, compareReleases_some_none]
    exact (Int.min_eq_right (inScale_compareReleases (some s) (some t)).neg_le).symm
  | some s, some t, some u => by
    have hsegments := (compareSegments_isScaledOrder false).compose (ofChars s) (ofChars t)
      (ofChars u)
    have hrest := composes_compareReleases (ofChars s).release (ofChars t).release
      (ofChars u).release
    rw [compareReleases_some_some, compareReleases_some_some, compareReleases_some_some]
    exact hsegments.sign.orElse hrest (inScale_sign _) (inScale_sign _)
      (inScale_compareReleases _ _) (inScale_compareReleases _ _)
termination_by s => remaining s
decreasing_by exact remaining_release_lt s

theorem compareReleases_isScaledOrder : IsScaledOrder 1 1 compareReleases :=
  ⟨compareReleases_swap, composes_compareReleases, inScale_compareReleases⟩

/-! ## Versions -/

theorem compareParsed_isScaledOrder (sensitive : Bool) :
    IsScaledOrder 1 3 (compareParsed sensitive) :=
  (compareSegments_isScaledOrder sensitive).orElse
    (compareReleases_isScaledOrder.comap release) (by decide) (by decide)

/-- The segments break each other's ties, and the releases theirs. -/
theorem compareParsed_eq (sensitive : Bool) (v w : Version) :
    compareParsed sensitive v w =
      orElse (scaled 3 (NaturalOrder.compareChars sensitive v.major w.major))
        (orElse (scaled 2 (NaturalOrder.compareChars sensitive v.minor w.minor))
          (orElse (scaled 1 (NaturalOrder.compareChars sensitive v.patch w.patch))
            (compareReleases v.release w.release))) := by
  show orElse (compareSegments sensitive v w) _ = _
  rw [compareSegments_eq, orElse_assoc, orElse_assoc]

/-- Major segments that differ decide. -/
theorem compareParsed_of_major_ne {sensitive : Bool} {v w : Version}
    (h : NaturalOrder.compareChars sensitive v.major w.major ≠ .eq) :
    compareParsed sensitive v w =
      scaled 3 (NaturalOrder.compareChars sensitive v.major w.major) := by
  rw [compareParsed_eq, orElse_of_ne]
  cases ho : NaturalOrder.compareChars sensitive v.major w.major with
  | eq => exact absurd ho h
  | lt | gt => decide

/-- Only major segments have the rank `3`. -/
theorem natAbs_compareParsed_le {sensitive : Bool} {v w : Version}
    (h : NaturalOrder.compareChars sensitive v.major w.major = .eq) :
    (compareParsed sensitive v w).natAbs ≤ 2 := by
  have hminor : InScale 2 2 (scaled 2 (NaturalOrder.compareChars sensitive v.minor w.minor)) :=
    inScale_scaled le_rfl _
  have hpatch : InScale 1 2 (scaled 1 (NaturalOrder.compareChars sensitive v.patch w.patch)) :=
    inScale_scaled (by decide) _
  have hrelease := inScale_compareReleases v.release w.release
  have hrest := hminor.orElse (hpatch.orElse hrelease le_rfl (by decide)) (by decide) le_rfl
  rw [compareParsed_eq, h]
  show (orElse 0 _).natAbs ≤ 2
  rw [orElse_zero]
  unfold InScale at hrest
  omega

/-- The rank `3` tells which major segment is greater. -/
theorem two_lt_compareParsed_iff (sensitive : Bool) (v w : Version) :
    2 < compareParsed sensitive v w ↔
      NaturalOrder.compareChars sensitive v.major w.major = .gt := by
  cases h : NaturalOrder.compareChars sensitive v.major w.major with
  | eq =>
    have hle := natAbs_compareParsed_le h
    simp only [reduceCtorEq, iff_false]
    omega
  | lt =>
    rw [compareParsed_of_major_ne (by rw [h]; decide), h]
    decide
  | gt =>
    rw [compareParsed_of_major_ne (by rw [h]; decide), h]
    decide

/-- Releases are compared as the versions that they read as, but for the rank. -/
theorem compareReleases_eq_sign (s t : List Char) :
    compareReleases (some s) (some t) = (compareParsed false (ofChars s) (ofChars t)).sign := by
  have hrest := (inScale_compareReleases (ofChars s).release (ofChars t).release).sign_eq
  rw [compareReleases_some_some]
  show _ = (orElse (compareSegments false (ofChars s) (ofChars t)) _).sign
  rw [sign_orElse, hrest]

/-- Not reading equal texts is a shortcut only. -/
theorem compare_eq_compareParsed (sensitive : Bool) (a b : String) :
    compare sensitive a b = compareParsed sensitive (parse a) (parse b) := by
  unfold compare
  split
  · rename_i h
    rw [h, (compareParsed_isScaledOrder sensitive).self]
  · rfl

/-- **The comparison of version texts is scaled.** -/
theorem compare_isScaledOrder (sensitive : Bool) : IsScaledOrder 1 3 (compare sensitive) := by
  have heq := funext fun a => funext fun b => compare_eq_compareParsed sensitive a b
  rw [heq]
  exact (compareParsed_isScaledOrder sensitive).comap parse

/-- **Version texts are totally preordered, and ranks follow the order.** Results are from `-3` to
`3` and change their sign with the sides, equal texts need no reading, over two steps upwards the
wider one counts, and equal versions are interchangeable. -/
theorem compare_total_preorder (sensitive : Bool) (a b c : String) :
    (-3 ≤ compare sensitive a b ∧ compare sensitive a b ≤ 3) ∧
      compare sensitive b a = -compare sensitive a b ∧
      compare sensitive a b = compareParsed sensitive (parse a) (parse b) ∧
      (compare sensitive a b ≤ 0 → compare sensitive b c ≤ 0 →
        compare sensitive a c = min (compare sensitive a b) (compare sensitive b c)) ∧
      (compare sensitive a b = 0 → compare sensitive a c = compare sensitive b c ∧
        compare sensitive c a = compare sensitive c b) := by
  have h := compare_isScaledOrder sensitive
  refine ⟨⟨(h.inScale a b).neg_le, ?_⟩, h.swap a b, compare_eq_compareParsed sensitive a b,
    h.compose a b c, fun hab => ⟨h.congr_left hab c, h.congr_right hab c⟩⟩
  have hba := (h.inScale b a).neg_le
  rw [h.swap a b] at hba
  exact Int.neg_le_neg_iff.mp hba

/-- A release, its version and the next minor version: one step is wider than the other. -/
theorem compare_total_preorder_release :
    compare true "1.2.0-a" "1.2.0" ≤ 0 ∧ compare true "1.2.0" "1.3" ≤ 0 ∧
      compare true "1.2.0-a" "1.3" = min (compare true "1.2.0-a" "1.2.0")
        (compare true "1.2.0" "1.3") ∧
      compare true "1.2" "1.2.0+b" = 0 ∧ compare true "1.2" "v1" = compare true "1.2.0+b" "v1" := by
  have hab : compare true "1.2.0-a" "1.2.0" ≤ 0 := by decide +kernel
  have hbc : compare true "1.2.0" "1.3" ≤ 0 := by decide +kernel
  have hde : compare true "1.2" "1.2.0+b" = 0 := by decide +kernel
  obtain ⟨-, -, -, hmin, -⟩ := compare_total_preorder true "1.2.0-a" "1.2.0" "1.3"
  obtain ⟨-, -, -, -, hcongr⟩ := compare_total_preorder true "1.2" "1.2.0+b" "v1"
  exact ⟨hab, hbc, hmin hab hbc, hde, (hcongr hde).1⟩

end Version

end PackQuery
