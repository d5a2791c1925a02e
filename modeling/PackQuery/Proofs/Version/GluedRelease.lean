import PackQuery.Proofs.Version.Parse

/-!
# Releases without a dash

A release may follow the last digit of the segments directly. It is looked for from the end of the
text, and the search stops at the first digit or dot.

**The cut** (`splitGlued_eq_some_iff`). A text has at most one cut into segments that end in a digit
and a release without digits and dots, because the digit in front of the release is the last one of
the text. The search finds this cut where there is one, and otherwise leaves the text whole.

**With a dash** (`glued_eq_dashed`). So a release that is found without a dash is the one that a
dash in its place would start, and both texts are one version.
-/

namespace PackQuery.Version

variable {s core release : List Char}

/-! ## The cut -/

/-- The search finds the release. -/
theorem splitGlued_append (h : IsGluedTo core release) :
    splitGlued (core ++ release) = (core, some release) := by
  obtain ⟨front, d, hcore⟩ : ∃ front d, core = front ++ [d] := by
    rcases List.eq_nil_or_concat core with rfl | ⟨front, d, hcore⟩
    · cases h.isDigit
    · exact ⟨front, d, by rw [hcore, List.concat_eq_append]⟩
  have hd : d.isDigit = true := by
    have hlast := h.isDigit
    rwa [hcore, List.getLast?_concat] at hlast
  have hrelease : ∀ c ∈ release.reverse, isGlued c = true :=
    fun c hc => isGlued_iff.mpr (h.forall_mem c (List.mem_reverse.mp hc))
  have hstop : ¬isGlued d = true := by simp [isGlued, hd]
  have hreverse : (core ++ release).reverse = release.reverse ++ d :: front.reverse := by
    simp [hcore]
  have htake : (core ++ release).reverse.takeWhile isGlued = release.reverse := by
    rw [hreverse, List.takeWhile_append_of_pos hrelease, List.takeWhile_cons_of_neg hstop,
      List.append_nil]
  have hdrop : (core ++ release).reverse.dropWhile isGlued = d :: front.reverse := by
    rw [hreverse, List.dropWhile_append_of_pos hrelease, List.dropWhile_cons_of_neg hstop]
  unfold splitGlued
  rw [htake, hdrop]
  simp [hd, h.ne_nil, hcore]

/-- **A release is found exactly where one is glued to the segments.** -/
theorem splitGlued_eq_some_iff :
    splitGlued s = (core, some release) ↔ s = core ++ release ∧ IsGluedTo core release := by
  constructor
  · intro h
    rcases splitGlued_cases s with hnone | ⟨core', release', hs, hglued, hsome⟩
    · rw [hnone] at h
      cases h
    · rw [hsome] at h
      cases h
      exact ⟨hs, hglued⟩
  · rintro ⟨rfl, h⟩
    exact splitGlued_append h

theorem splitGlued_eq_none_iff :
    splitGlued s = (s, none) ↔ ∀ core release, s = core ++ release → ¬IsGluedTo core release := by
  constructor
  · intro h core release hs hglued
    rw [splitGlued_eq_some_iff.mpr ⟨hs, hglued⟩] at h
    cases h
  · intro h
    rcases splitGlued_cases s with hnone | ⟨core, release, hs, hglued, -⟩
    · exact hnone
    · exact absurd hglued (h core release hs)

/-! ## Texts -/

/-- A text is its segments with the release that is glued to them. -/
theorem parse_append_glued {core release : String} (h : IsGluedTo core.toList release.toList)
    (hdash : '-' ∉ core.toList ++ release.toList) (hplus : '+' ∉ core.toList ++ release.toList) :
    parse (core ++ release) = ofCore core.toList (some release.toList) := by
  rw [← String.toList_append] at hdash hplus
  rw [parse_of_not_mem hplus, ofChars_eq_ofCore, splitRelease, Chars.after?_of_not_mem hdash]
  show ofCore (splitGlued (core ++ release).toList).1 (splitGlued (core ++ release).toList).2 = _
  rw [String.toList_append, splitGlued_append h]

/-- **A glued release means the same as a dashed one.** A text is cut exactly where a release is
glued to its segments. -/
theorem glued_eq_dashed :
    (∀ s core release : String, splitGlued s.toList = (core.toList, some release.toList) ↔
        s = core ++ release ∧ IsGluedTo core.toList release.toList) ∧
      (∀ s : String, splitGlued s.toList = (s.toList, none) ↔
        ¬∃ core release : String, s = core ++ release ∧ IsGluedTo core.toList release.toList) ∧
      ∀ core release : String, IsGluedTo core.toList release.toList →
        '-' ∉ core.toList ++ release.toList → '+' ∉ core.toList ++ release.toList →
        parse (core ++ release) = parse (core ++ "-" ++ release) ∧
          (parse (core ++ release)).release = some release.toList := by
  refine ⟨fun s core release => ?_, fun s => ?_, fun core release h hdash hplus => ?_⟩
  · rw [splitGlued_eq_some_iff, ← String.toList_append, String.toList_inj]
  · rw [splitGlued_eq_none_iff]
    constructor
    · rintro h ⟨core, release, rfl, hglued⟩
      exact h _ _ String.toList_append hglued
    · intro h core release hs hglued
      refine h ⟨String.ofList core, String.ofList release, ?_, ?_⟩
      · rw [← String.toList_inj, hs, String.toList_append, String.toList_ofList,
          String.toList_ofList]
      · rwa [String.toList_ofList, String.toList_ofList]
  · have hglued := parse_append_glued h hdash hplus
    rw [List.mem_append, not_or] at hdash hplus
    rw [hglued, parse_append_dash hdash.1 hplus.1 hplus.2]
    exact ⟨rfl, rfl⟩

/-- A release with a blank and a character of two bytes. -/
theorem glued_eq_dashed_beta :
    IsGluedTo "1.02".toList "β rc".toList ∧
      parse ("1.02" ++ "β rc") = parse ("1.02" ++ "-" ++ "β rc") ∧
      (parse ("1.02" ++ "β rc")).release = some "β rc".toList ∧
      (∀ core release : String, "1.02" = core ++ release →
        ¬IsGluedTo core.toList release.toList) := by
  have hglued : IsGluedTo "1.02".toList "β rc".toList := by decide
  obtain ⟨-, hnone, hdashed⟩ := glued_eq_dashed
  obtain ⟨hparse, hrelease⟩ := hdashed "1.02" "β rc" hglued (by decide) (by decide)
  refine ⟨hglued, hparse, hrelease, fun core release hs hglued => ?_⟩
  exact (hnone "1.02").mp (by decide) ⟨core, release, hs, hglued⟩

end PackQuery.Version
