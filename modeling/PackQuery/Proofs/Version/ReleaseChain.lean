import PackQuery.Proofs.Version.Parse
import PackQuery.Proofs.Version.ScaledOrder

/-!
# The chain of releases

Releases are compared in passes. A pass reads both as versions, and if their segments agree, the
releases within them are left for the next pass. This file counts the passes.

**One pass** (`pass`, `Shrinks`). A release within a release is an end of it, and shorter. So a pass
that goes on leaves shorter releases, or none.

**All passes** (`Passes`). There is one run of passes from two releases to their order, and it is
what `compareReleases` computes (`passes_compareReleases`, `Passes.unique`).

**How many** (`reach`). A release with dashes loses the first one and what is in front of it. A
release without dashes may have another one glued to its last digit, but that one holds no digits
and no dashes, so nothing is glued to anything in it. Two passes behind the last dash are the most.
-/

namespace PackQuery.Version

variable {s t : List Char} {o o' p p' : Option (List Char)} {n m : Nat} {answer answer' : Int}

/-! ## Releases within releases -/

theorem after?_isSuffix {d : Char} (h : Chars.after? d s = some t) : t <:+ s := by
  have hsuffix := List.dropWhile_suffix (l := s) (· != d)
  unfold Chars.after? at h
  split at h
  · cases h
  · rename_i hdrop
    cases h
    rw [hdrop] at hsuffix
    exact (List.suffix_cons _ _).trans hsuffix

/-- The release that is read from a text is an end of the text. -/
theorem release_isSuffix (h : (ofChars s).release = some t) : t <:+ s := by
  change (splitRelease s).2 = some t at h
  unfold splitRelease at h
  split at h
  · rename_i hafter
    cases h
    exact after?_isSuffix hafter
  · rcases splitGlued_cases s with hnone | ⟨core, tail, hs, -, hsome⟩
    · rw [hnone] at h
      cases h
    · rw [hsome] at h
      cases h
      exact ⟨core, hs.symm⟩

/-- Whether a release has become one that is an end of it and shorter, or none. -/
def Shrinks (o o' : Option (List Char)) : Prop :=
  ∃ s, o = some s ∧ ∀ t ∈ o', t <:+ s ∧ t.length < s.length

theorem shrinks_release (s : List Char) : Shrinks (some s) (ofChars s).release :=
  ⟨s, rfl, fun _ ht => ⟨release_isSuffix ht, release_length_lt ht⟩⟩

/-! ## Passes -/

/-- A pass over two releases: their order, or the releases that are left if their segments agree. -/
def pass : Option (List Char) → Option (List Char) →
    Int ⊕ (Option (List Char) × Option (List Char))
  | none, none => .inl 0
  | none, some _ => .inl 1
  | some _, none => .inl (-1)
  | some s, some t =>
    let rank := compareSegments false (ofChars s) (ofChars t)
    if rank = 0 then .inr ((ofChars s).release, (ofChars t).release) else .inl rank.sign

/-- How many comparisons of segments a pass over two releases needs: one if both are there. -/
def comparisons : Option (List Char) → Option (List Char) → Nat
  | some _, some _ => 1
  | _, _ => 0

/-- The run of passes from two releases to their order, with the number of passes that find both
releases there. -/
inductive Passes : Option (List Char) → Option (List Char) → Nat → Int → Prop
  | done {o p : Option (List Char)} {answer : Int} (h : pass o p = .inl answer) :
    Passes o p (comparisons o p) answer
  | more {o p o' p' : Option (List Char)} {n : Nat} {answer : Int} (h : pass o p = .inr (o', p'))
    (rest : Passes o' p' n answer) : Passes o p (comparisons o p + n) answer

/-- What it takes for a pass to go on, and what it leaves. -/
theorem pass_eq_inr_iff : pass o p = .inr (o', p') ↔ ∃ s t, o = some s ∧ p = some t ∧
    compareSegments false (ofChars s) (ofChars t) = 0 ∧
    o' = (ofChars s).release ∧ p' = (ofChars t).release := by
  constructor
  · intro h
    cases o with
    | none => cases p <;> cases h
    | some s =>
      cases p with
      | none => cases h
      | some t =>
        dsimp only [pass] at h
        split at h
        · rename_i hrank
          cases h
          exact ⟨s, t, rfl, rfl, hrank, rfl, rfl⟩
        · cases h
  · rintro ⟨s, t, rfl, rfl, hrank, rfl, rfl⟩
    simp [pass, hrank]

/-- **A pass that goes on makes both releases shorter.** -/
theorem shrinks_of_pass (h : pass o p = .inr (o', p')) : Shrinks o o' ∧ Shrinks p p' := by
  obtain ⟨s, t, rfl, rfl, -, rfl, rfl⟩ := pass_eq_inr_iff.mp h
  exact ⟨shrinks_release s, shrinks_release t⟩

/-- **Passes end**, and with the order of the releases. -/
theorem passes_compareReleases : ∀ o p, ∃ n, Passes o p n (compareReleases o p)
  | none, none => ⟨0, by rw [compareReleases_none_none]; exact .done rfl⟩
  | none, some t => ⟨0, by rw [compareReleases_none_some]; exact .done rfl⟩
  | some s, none => ⟨0, by rw [compareReleases_some_none]; exact .done rfl⟩
  | some s, some t => by
    rw [compareReleases_some_some]
    by_cases hrank : compareSegments false (ofChars s) (ofChars t) = 0
    · obtain ⟨n, hrest⟩ := passes_compareReleases (ofChars s).release (ofChars t).release
      rw [hrank, Int.sign_zero, orElse_zero]
      exact ⟨1 + n, .more (pass_eq_inr_iff.mpr ⟨s, t, rfl, rfl, hrank, rfl, rfl⟩) hrest⟩
    · rw [orElse_of_ne (mt Int.sign_eq_zero_iff_zero.mp hrank)]
      exact ⟨1, .done (by simp [pass, hrank])⟩
termination_by o => remaining o
decreasing_by exact remaining_release_lt s

theorem Passes.unique (h : Passes o p n answer) (h' : Passes o p m answer') :
    n = m ∧ answer = answer' := by
  induction h generalizing m with
  | done hpass =>
    cases h' with
    | done hpass' => exact ⟨rfl, Sum.inl.inj (hpass.symm.trans hpass')⟩
    | more hpass' => cases hpass.symm.trans hpass'
  | more hpass _ ih =>
    cases h' with
    | done hpass' => cases hpass.symm.trans hpass'
    | more hpass' hrest' =>
      cases hpass.symm.trans hpass'
      obtain ⟨rfl, rfl⟩ := ih hrest'
      exact ⟨rfl, rfl⟩

/-! ## The number of passes -/

/-- The dashes in a release. -/
def dashes : Option (List Char) → Nat
  | none => 0
  | some s => s.count '-'

/-- The most releases in a chain that starts with a release. -/
def reach : Option (List Char) → Nat
  | none => 0
  | some s => if '-' ∈ s ∨ s.any Char.isDigit then 2 + s.count '-' else 1

theorem reach_pos (s : List Char) : 0 < reach (some s) := by
  simp only [reach]
  split <;> omega

theorem reach_le (o : Option (List Char)) : reach o ≤ 2 + dashes o := by
  cases o with
  | none => exact Nat.zero_le _
  | some s =>
    simp only [reach, dashes]
    split <;> omega

/-- The release within a release reaches less far. -/
theorem reach_release_lt (s : List Char) : reach (ofChars s).release < reach (some s) := by
  show reach (splitRelease s).2 < reach (some s)
  unfold splitRelease
  by_cases hdash : '-' ∈ s
  · obtain ⟨front, back, rfl, hfront⟩ := List.eq_append_cons_of_mem hdash
    rw [Chars.after?_append_cons hfront]
    have hle := reach_le (some back)
    have hcount : (front ++ '-' :: back).count '-' = back.count '-' + 1 := by
      rw [List.count_append, List.count_eq_zero.mpr hfront, List.count_cons_self, Nat.zero_add]
    rw [dashes] at hle
    simp only [reach, hdash, true_or, if_true] at hle ⊢
    omega
  · rw [Chars.after?_of_not_mem hdash]
    rcases splitGlued_cases s with hnone | ⟨core, tail, rfl, hglued, hsome⟩
    · rw [hnone]
      exact reach_pos s
    · -- The digit in front of the glued release makes the difference: there is none behind it.
      have hdigit : (core ++ tail).any Char.isDigit = true := by
        obtain ⟨c, hc, hdigit⟩ := (Option.any_eq_true _ _).mp hglued.isDigit
        exact List.any_eq_true.mpr
          ⟨c, List.mem_append_left tail (List.mem_of_getLast? hc), hdigit⟩
      have htail : ¬('-' ∈ tail ∨ tail.any Char.isDigit = true) := by
        rintro (hmem | hmem)
        · exact hdash (List.mem_append_right core hmem)
        · obtain ⟨c, hc, hdigit⟩ := List.any_eq_true.mp hmem
          rw [(hglued.forall_mem c hc).1] at hdigit
          cases hdigit
      rw [hsome]
      simp only [reach, htail, hdigit, or_true, if_true, if_false]
      omega

/-- Every pass that finds both releases takes one from both chains. -/
theorem Passes.le_reach (h : Passes o p n answer) : n ≤ min (reach o) (reach p) := by
  induction h with
  | @done o p =>
    cases o with
    | none => exact Nat.zero_le _
    | some s =>
      cases p with
      | none => exact Nat.zero_le _
      | some t => exact Nat.le_min.mpr ⟨reach_pos s, reach_pos t⟩
  | more hpass _ ih =>
    obtain ⟨s, t, rfl, rfl, -, rfl, rfl⟩ := pass_eq_inr_iff.mp hpass
    have hs := reach_release_lt s
    have ht := reach_release_lt t
    rw [comparisons]
    omega

/-- **Comparing releases ends soon.** The release within a text is an end of it, and shorter. Every
pass that goes on leaves shorter releases, or none. From the releases of two versions there is one
run of passes; it compares at most two more pairs of releases than the lesser number of dashes in
them, and its answer decides where the segments agree. -/
theorem passes_le_dashes (sensitive : Bool) (v w : Version) :
    (∀ s t, (ofChars s).release = some t → t <:+ s ∧ t.length < s.length) ∧
      (∀ o p o' p', pass o p = .inr (o', p') → Shrinks o o' ∧ Shrinks p p') ∧
      (∃ n answer, Passes v.release w.release n answer) ∧
      ∀ n answer, Passes v.release w.release n answer →
        n ≤ 2 + min (dashes v.release) (dashes w.release) ∧
          compareParsed sensitive v w = orElse (compareSegments sensitive v w) answer := by
  refine ⟨fun s t h => ⟨release_isSuffix h, release_length_lt h⟩,
    fun o p o' p' h => shrinks_of_pass h, ?_, fun n answer h => ⟨?_, ?_⟩⟩
  · obtain ⟨n, h⟩ := passes_compareReleases v.release w.release
    exact ⟨n, _, h⟩
  · have hreach := h.le_reach
    have hv := reach_le v.release
    have hw := reach_le w.release
    omega
  · obtain ⟨m, hm⟩ := passes_compareReleases v.release w.release
    rw [(h.unique hm).2]
    rfl

/-- Three passes for one dash: behind it stands a release with another one glued to its digit. -/
theorem passes_le_dashes_glued :
    let v := parse "1.0-a-b1c"
    let w := parse "1.0-A-b1d"
    (ofChars "a-b1c".toList).release = some "b1c".toList ∧ "b1c".toList <:+ "a-b1c".toList ∧
      pass v.release w.release = .inr (some "b1c".toList, some "b1d".toList) ∧
      Shrinks v.release (some "b1c".toList) ∧
      Passes v.release w.release 3 (-1) ∧ 3 ≤ 2 + min (dashes v.release) (dashes w.release) ∧
      compareParsed true v w = orElse (compareSegments true v w) (-1) := by
  intro v w
  have hrelease : (ofChars "a-b1c".toList).release = some "b1c".toList := by decide
  have hpass : pass v.release w.release = .inr (some "b1c".toList, some "b1d".toList) := by
    decide +kernel
  have hglued : pass (some "b1c".toList) (some "b1d".toList) = .inr (some ['c'], some ['d']) := by
    decide +kernel
  have hlast : pass (some ['c']) (some ['d']) = .inl (-1) := by decide +kernel
  have hpasses : Passes v.release w.release 3 (-1) := .more hpass (.more hglued (.done hlast))
  obtain ⟨hends, hshrinks, -, hbound⟩ := passes_le_dashes true v w
  obtain ⟨hle, horder⟩ := hbound 3 (-1) hpasses
  exact ⟨hrelease, (hends _ _ hrelease).1, hpass, (hshrinks _ _ _ _ hpass).1, hpasses, hle,
    horder⟩

end PackQuery.Version
