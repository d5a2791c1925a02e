import PackQuery.Version.Basic
import PackQuery.Proofs.Text.Cut

/-!
# Reading version texts

What is read from a text that is put together from segments and a release. A version is its
segments with a release (`ofCore`), and reading a text means to find where the release starts.

**With a dash** (`parse_append_dash`). The first dash ends the segments, so the release may be any
text without build metadata.

**Without a dash** (`parse_of_isDigit`). A text that ends in a digit has no release. In any other
text a glued release stands behind the last digit at the earliest (`splitGlued_cases`), so it does
not cut into digits at the front (`leadingDigits_splitRelease`).

**With build metadata** (`parse_append_metadata`). Everything from the first plus sign on is dropped
before the release is looked for.
-/

namespace PackQuery.Version

/-! ## Segments and release -/

/-- The version with the segments of a text and a release. -/
def ofCore (core : List Char) (release : Option (List Char)) : Version :=
  let (major, rest) := nextSegment core
  let (minor, rest) := nextSegment rest
  let (patch, _) := nextSegment rest
  ⟨major, minor, patch, release⟩

theorem ofChars_eq_ofCore (s : List Char) :
    ofChars s = ofCore (splitRelease s).1 (splitRelease s).2 := rfl

/-- The release does not count in the comparison of segments. -/
theorem compareSegments_ofCore (sensitive : Bool) (core core' : List Char)
    (r r' : Option (List Char)) :
    compareSegments sensitive (ofCore core r) (ofCore core' r') =
      compareSegments sensitive (ofCore core none) (ofCore core' none) := rfl

theorem nextSegment_of_ne_nil {s : List Char} (h : s ≠ []) :
    nextSegment s = (Chars.before '.' s, (Chars.after? '.' s).getD []) := by
  cases s with
  | nil => exact absurd rfl h
  | cons c s => rfl

theorem nextSegment_append_dot {s : List Char} (h : '.' ∉ s) (rest : List Char) :
    nextSegment (s ++ '.' :: rest) = (s, rest) := by
  rw [nextSegment_of_ne_nil (by simp), Chars.before_append_cons h, Chars.after?_append_cons h,
    Option.getD_some]

theorem nextSegment_of_not_mem {s : List Char} (hne : s ≠ []) (h : '.' ∉ s) :
    nextSegment s = (s, []) := by
  rw [nextSegment_of_ne_nil hne, Chars.before_of_not_mem h, Chars.after?_of_not_mem h,
    Option.getD_none]

/-- Three segments between two dots. -/
theorem ofCore_segments {major minor patch : List Char} (hmajor : '.' ∉ major)
    (hminor : '.' ∉ minor) (hpatch : '.' ∉ patch) (hne : patch ≠ [])
    (release : Option (List Char)) :
    ofCore (major ++ '.' :: (minor ++ '.' :: patch)) release = ⟨major, minor, patch, release⟩ := by
  simp only [ofCore, nextSegment_append_dot hmajor, nextSegment_append_dot hminor,
    nextSegment_of_not_mem hne hpatch]

/-! ## Characters of segments -/

theorem mem_of_mem_after? {d c : Char} {s : List Char} (h : c ∈ (Chars.after? d s).getD []) :
    c ∈ s := by
  unfold Chars.after? at h
  split at h
  · cases h
  · rename_i hdrop
    apply (List.dropWhile_sublist (· != d)).mem
    rw [hdrop]
    exact List.mem_cons_of_mem _ h

theorem forall_mem_nextSegment {p : Char → Prop} (hzero : p '0') {s : List Char}
    (h : ∀ c ∈ s, p c) : (∀ c ∈ (nextSegment s).1, p c) ∧ ∀ c ∈ (nextSegment s).2, p c := by
  by_cases hs : s = []
  · subst hs
    exact ⟨List.forall_mem_singleton.mpr hzero, fun c hc => absurd hc List.not_mem_nil⟩
  · rw [nextSegment_of_ne_nil hs]
    exact ⟨fun c hc => h c ((List.takeWhile_prefix _).mem hc),
      fun c hc => h c (mem_of_mem_after? hc)⟩

/-- Segments have no characters of their own but the zero of a missing one. -/
theorem forall_mem_ofCore {p : Char → Prop} (hzero : p '0') {core : List Char}
    (h : ∀ c ∈ core, p c) (release : Option (List Char)) :
    (∀ c ∈ (ofCore core release).major, p c) ∧ (∀ c ∈ (ofCore core release).minor, p c) ∧
      ∀ c ∈ (ofCore core release).patch, p c := by
  obtain ⟨hmajor, hrest⟩ := forall_mem_nextSegment hzero h
  obtain ⟨hminor, hrest⟩ := forall_mem_nextSegment hzero hrest
  exact ⟨hmajor, hminor, (forall_mem_nextSegment hzero hrest).1⟩

/-! ## Where the release starts -/

theorem splitGlued_of_isDigit {s : List Char} (h : s.getLast?.any Char.isDigit) :
    splitGlued s = (s, none) := by
  rw [List.getLast?_eq_head?_reverse] at h
  unfold splitGlued
  cases hrev : s.reverse with
  | nil => rfl
  | cons d rest =>
    rw [hrev] at h
    have hd : d.isDigit = true := h
    have hglued : isGlued d = false := by simp [isGlued, hd]
    simp [hglued]

theorem splitRelease_append_dash {core : List Char} (h : '-' ∉ core) (release : List Char) :
    splitRelease (core ++ '-' :: release) = (core, some release) := by
  rw [splitRelease, Chars.after?_append_cons h, Chars.before_append_cons h]

theorem splitRelease_of_isDigit {s : List Char} (hdash : '-' ∉ s)
    (hdigit : s.getLast?.any Char.isDigit) : splitRelease s = (s, none) := by
  rw [splitRelease, Chars.after?_of_not_mem hdash]
  exact splitGlued_of_isDigit hdigit

theorem isGlued_iff {c : Char} : isGlued c = true ↔ c.isDigit = false ∧ c ≠ '.' := by
  simp [isGlued, and_comm]

/-- Whether a release may follow segments without a dash: they end in a digit, and there are neither
digits nor dots in the release. -/
structure IsGluedTo (core release : List Char) : Prop where
  isDigit : core.getLast?.any Char.isDigit
  ne_nil : release ≠ []
  forall_mem : ∀ c ∈ release, c.isDigit = false ∧ c ≠ '.'

instance (core release : List Char) : Decidable (IsGluedTo core release) :=
  decidable_of_iff (core.getLast?.any Char.isDigit ∧ release ≠ [] ∧ release.all isGlued)
    ⟨fun h => ⟨h.1, h.2.1, fun c hc => isGlued_iff.mp (List.all_eq_true.mp h.2.2 c hc)⟩,
      fun h => ⟨h.isDigit, h.ne_nil,
        List.all_eq_true.mpr fun c hc => isGlued_iff.mpr (h.forall_mem c hc)⟩⟩

/-- A text is cut where a release is glued to the segments, or not at all. -/
theorem splitGlued_cases (s : List Char) :
    splitGlued s = (s, none) ∨
      ∃ core tail, s = core ++ tail ∧ IsGluedTo core tail ∧ splitGlued s = (core, some tail) := by
  have hjoin := List.takeWhile_append_dropWhile (p := isGlued) (l := s.reverse)
  unfold splitGlued
  cases hdrop : s.reverse.dropWhile isGlued with
  | nil => exact Or.inl rfl
  | cons d rest =>
    dsimp only
    split
    · rename_i h
      obtain ⟨hd, htail⟩ := Bool.and_eq_true_iff.mp h
      refine Or.inr ⟨_, _, ?_, ⟨?_, by simpa using htail, ?_⟩, rfl⟩
      · rw [← List.reverse_append, ← hdrop, hjoin, List.reverse_reverse]
      · rw [List.getLast?_reverse]
        exact hd
      · intro c hc
        exact isGlued_iff.mp (List.all_eq_true.mp List.all_takeWhile c (List.mem_reverse.mp hc))
    · exact Or.inl rfl

theorem splitGlued_isPrefix (s : List Char) : (splitGlued s).1 <+: s := by
  rcases splitGlued_cases s with h | ⟨core, tail, hs, -, h⟩
  · have hfst : (splitGlued s).1 = s := congrArg Prod.fst h
    exact ⟨[], by rw [hfst, List.append_nil]⟩
  · rw [h, hs]
    exact List.prefix_append core tail

theorem splitGlued_ne_nil {s : List Char} (hne : s ≠ []) : (splitGlued s).1 ≠ [] := by
  rcases splitGlued_cases s with h | ⟨core, tail, -, hglued, h⟩
  · rwa [h]
  · rw [h]
    rintro rfl
    cases hglued.isDigit

/-- The segments are at the front of a text. -/
theorem splitRelease_isPrefix (s : List Char) : (splitRelease s).1 <+: s := by
  unfold splitRelease
  split
  · exact List.takeWhile_prefix _
  · exact splitGlued_isPrefix s

/-- A text that starts with another character than a dash starts with a segment. -/
theorem exists_splitRelease_cons {c : Char} (hc : c ≠ '-') (s : List Char) :
    ∃ core, (splitRelease (c :: s)).1 = c :: core := by
  have hne : (splitRelease (c :: s)).1 ≠ [] := by
    unfold splitRelease
    split
    · simp [Chars.before, hc]
    · exact splitGlued_ne_nil (List.cons_ne_nil c s)
  obtain ⟨d, core, hcore⟩ := List.exists_cons_of_ne_nil hne
  have hprefix := splitRelease_isPrefix (c :: s)
  rw [hcore, List.cons_prefix_cons] at hprefix
  exact ⟨core, by rw [hcore, hprefix.1]⟩

/-! ## The first segment -/

theorem fst_nextSegment {s : List Char} (h : s ≠ []) :
    (nextSegment s).1 = Chars.before '.' s := by
  rw [nextSegment_of_ne_nil h]

/-- A text that starts with another character than a dash or a dot starts the first segment. -/
theorem exists_major_cons {c : Char} (hdash : c ≠ '-') (hdot : c ≠ '.') (s : List Char) :
    ∃ rest, (ofChars (c :: s)).major = c :: rest := by
  obtain ⟨core, hcore⟩ := exists_splitRelease_cons hdash s
  refine ⟨Chars.before '.' core, ?_⟩
  show (nextSegment (splitRelease (c :: s)).1).1 = _
  rw [hcore, fst_nextSegment (List.cons_ne_nil c core)]
  simp [Chars.before, hdot]

/-! ## Digits at the front -/

/-- The digits at the front of a text. -/
def leadingDigits (s : List Char) : List Char := s.takeWhile Char.isDigit

theorem leadingDigits_append (s : List Char) {t : List Char}
    (h : ∀ c ∈ t.head?, c.isDigit = false) : leadingDigits (s ++ t) = leadingDigits s := by
  induction s with
  | nil =>
    cases t with
    | nil => rfl
    | cons c t => exact List.takeWhile_cons_of_neg (by simp [h c rfl])
  | cons c s ih =>
    show (c :: (s ++ t)).takeWhile Char.isDigit = (c :: s).takeWhile Char.isDigit
    rw [List.takeWhile_cons, List.takeWhile_cons]
    split
    · exact congrArg (c :: ·) ih
    · rfl

/-- A cut at another character than a digit leaves the leading digits as they are. -/
theorem leadingDigits_before {d : Char} (hd : d.isDigit = false) (s : List Char) :
    leadingDigits (Chars.before d s) = leadingDigits s := by
  have hrest : ∀ c ∈ (s.dropWhile (· != d)).head?, c.isDigit = false := by
    intro c hc
    have hnot := List.head?_dropWhile_not (· != d) s
    rw [Option.mem_def.mp hc] at hnot
    have hcd : c = d := by simpa using hnot
    rw [hcd, hd]
  have happend := leadingDigits_append (Chars.before d s) hrest
  rwa [Chars.before, List.takeWhile_append_dropWhile, eq_comm] at happend

theorem leadingDigits_splitRelease (s : List Char) :
    leadingDigits (splitRelease s).1 = leadingDigits s := by
  unfold splitRelease
  split
  · exact leadingDigits_before (by decide) s
  · rcases splitGlued_cases s with h | ⟨core, tail, rfl, hglued, h⟩
    · rw [h]
    · rw [h]
      exact (leadingDigits_append core fun c hc =>
        (hglued.forall_mem c (List.mem_of_mem_head? hc)).1).symm

/-! ## Texts -/

theorem parse_of_not_mem {s : String} (h : '+' ∉ s.toList) : parse s = ofChars s.toList := by
  rw [parse, withoutMetadata, Chars.before_of_not_mem h]

/-- The major segment is missing, or it stands in front of the first dot and has all the digits that
the text starts with. -/
theorem major_cases (s : String) :
    (parse s).major = ['0'] ∧ leadingDigits s.toList = [] ∨
      (parse s).major <+: Chars.before '.' s.toList ∧
        leadingDigits (parse s).major = leadingDigits s.toList := by
  obtain ⟨core, hcore⟩ : ∃ core, (splitRelease (withoutMetadata s.toList)).1 = core := ⟨_, rfl⟩
  have hstart : core <+: s.toList := by
    rw [← hcore]
    exact (splitRelease_isPrefix _).trans (List.takeWhile_prefix _)
  have hdigits : leadingDigits core = leadingDigits s.toList := by
    rw [← hcore, leadingDigits_splitRelease]
    exact leadingDigits_before (by decide) s.toList
  have hmajor : (parse s).major = (nextSegment core).1 := by
    rw [← hcore]
    rfl
  rw [hmajor, ← hdigits]
  by_cases hnil : core = []
  · rw [hnil]
    exact Or.inl ⟨rfl, rfl⟩
  · rw [fst_nextSegment hnil]
    exact Or.inr ⟨Chars.before_isPrefix hstart '.', leadingDigits_before (by decide) core⟩

theorem forall_mem_parse {p : Char → Prop} (hzero : p '0') {s : String} (h : ∀ c ∈ s.toList, p c) :
    (∀ c ∈ (parse s).major, p c) ∧ (∀ c ∈ (parse s).minor, p c) ∧ ∀ c ∈ (parse s).patch, p c := by
  refine forall_mem_ofCore hzero (fun c hc => h c ?_) _
  exact (List.takeWhile_prefix _).mem ((splitRelease_isPrefix _).mem hc)

/-- Build metadata does not count. -/
theorem parse_append_metadata {s metadata : String} (h : '+' ∉ s.toList)
    (hmetadata : Text.IsTail '+' metadata) : parse (s ++ metadata) = parse s := by
  have hbefore := congrArg String.toList (Text.before_append_of_isTail h hmetadata)
  rw [Text.before, String.toList_ofList] at hbefore
  rw [parse_of_not_mem h, parse, withoutMetadata, hbefore]

/-- The first dash starts the release. -/
theorem parse_append_dash {core release : String} (hdash : '-' ∉ core.toList)
    (hcore : '+' ∉ core.toList) (hrelease : '+' ∉ release.toList) :
    parse (core ++ "-" ++ release) = ofCore core.toList (some release.toList) := by
  have hlist : (core ++ "-" ++ release).toList = core.toList ++ '-' :: release.toList := by
    simp
  have hplus : '+' ∉ (core ++ "-" ++ release).toList := by
    rw [hlist]
    simp [hcore, hrelease]
  rw [parse_of_not_mem hplus, ofChars_eq_ofCore, hlist, splitRelease_append_dash hdash]

theorem parse_trailing_dash {core : String} (hdash : '-' ∉ core.toList)
    (hplus : '+' ∉ core.toList) : parse (core ++ "-") = ofCore core.toList (some []) := by
  have h := @parse_append_dash core "" hdash hplus (by simp)
  rwa [String.append_empty] at h

/-- Behind a digit there is no release. -/
theorem parse_of_isDigit {s : String} (hdash : '-' ∉ s.toList) (hplus : '+' ∉ s.toList)
    (hdigit : s.toList.getLast?.any Char.isDigit) : parse s = ofCore s.toList none := by
  rw [parse_of_not_mem hplus, ofChars_eq_ofCore, splitRelease_of_isDigit hdash hdigit]

end PackQuery.Version
