import PackQuery.Version.Strict
import PackQuery.Proofs.Numeral

/-!
# The grammar of strict versions

Which texts are strict versions, and of which numbers and identifiers.

**The grammar** (`IsStrict`). The numbers are below 2⁶⁴. The pre-release and the build metadata are
identifiers between dots or missing. No identifier is empty, and none of a pre-release is a number
with a leading zero.

**The text** (`text`). The numbers have no leading zeros. A part that is missing has no mark either.

**Scans.** Each part is read as far as its characters go (`scan_append`), so that it is read alone
if what follows starts with another character: a dot or a mark behind a number, a plus behind a
pre-release, nothing behind the metadata.

Main result: `read_eq_ok_iff`, a strict version is read from its own text and from no other.
-/

namespace PackQuery

namespace StrictVersion

/-! ## The grammar -/

/-- Identifiers between dots. -/
structure IsIdentifiers (part : Part) (s : List Char) : Prop where
  isChar : ∀ c ∈ s, (isIdentifierChar c || c == '.') = true
  isPiece : ∀ piece ∈ Chars.splitOn '.' s,
    piece ≠ [] ∧ (part = .pre → hasLeadingZero piece = false)

/-- What the grammar asks of the parts. A pre-release or metadata that is missing is empty. -/
structure IsStrict (v : StrictVersion) : Prop where
  major_lt : v.major < Numeral.limit64
  minor_lt : v.minor < Numeral.limit64
  patch_lt : v.patch < Numeral.limit64
  pre : v.pre ≠ "" → IsIdentifiers .pre v.pre.toList
  build : v.build ≠ "" → IsIdentifiers .build v.build.toList

/-- A part behind its mark. -/
def marked (mark : Char) (part : String) : String :=
  if part = "" then "" else String.singleton mark ++ part

def core (v : StrictVersion) : String :=
  toString v.major ++ "." ++ toString v.minor ++ "." ++ toString v.patch

def text (v : StrictVersion) : String := v.core ++ marked '-' v.pre ++ marked '+' v.build

theorem toList_core (v : StrictVersion) :
    v.core.toList =
      Nat.toDigits 10 v.major ++
        '.' :: (Nat.toDigits 10 v.minor ++ '.' :: Nat.toDigits 10 v.patch) := by
  simp [core]

theorem toList_text (v : StrictVersion) :
    v.text.toList =
      Nat.toDigits 10 v.major ++
        '.' :: (Nat.toDigits 10 v.minor ++
          '.' :: (Nat.toDigits 10 v.patch ++
            ((marked '-' v.pre).toList ++ (marked '+' v.build).toList))) := by
  simp [text, toList_core]

theorem head?_marked {mark : Char} {part : String} {c : Char}
    (h : c ∈ (marked mark part).toList.head?) : c = mark := by
  unfold marked at h
  split at h
  · cases h
  · rw [String.toList_append, String.toList_singleton] at h
    exact (Option.some.inj h).symm

/-! ## Scans -/

theorem bind_eq_ok {ε α β : Type} {x : Except ε α} {f : α → Except ε β} {b : β} :
    (x >>= f) = .ok b ↔ ∃ a, x = .ok a ∧ f a = .ok b := by
  cases x <;> simp [bind, Except.bind]

/-- A scan stops in front of the first character that it does not take. -/
theorem scan_append {p : Char → Bool} {front rest : List Char} (hfront : ∀ c ∈ front, p c = true)
    (hrest : ∀ c ∈ rest.head?, p c = false) :
    (front ++ rest).takeWhile p = front ∧ (front ++ rest).dropWhile p = rest := by
  rw [List.takeWhile_append_of_pos hfront, List.dropWhile_append_of_pos hfront]
  cases rest with
  | nil => simp
  | cons c rest => simp [hrest c rfl]

theorem number_append (part : Part) {n : Nat} (hn : n < Numeral.limit64) {rest : List Char}
    (hrest : ∀ c ∈ rest.head?, c.isDigit = false) :
    number part (Nat.toDigits 10 n ++ rest) = .ok (n, rest) := by
  have hdigits := isDigits_toDigits n
  obtain ⟨htake, hdrop⟩ := scan_append hdigits.isDigit hrest
  unfold number
  dsimp only
  rw [htake, hdrop]
  split
  · rename_i hempty
    exact absurd hempty hdigits.ne_nil
  · rename_i hempty
    exact absurd hempty hdigits.ne_nil
  · rename_i hzero
    have hn := eq_zero_of_head?_toDigits (n := n) (by rw [hzero]; rfl)
    rw [hn] at hzero
    cases hzero
  · rw [Numeral.decimal64?_of_isDigit hdigits, Nat.ofDigitChars_ten_toDigits,
      Numeral.below_eq_some_iff.mpr ⟨hn, rfl⟩]

theorem number_dot (part : Part) {n : Nat} (hn : n < Numeral.limit64) (rest : List Char) :
    number part (Nat.toDigits 10 n ++ '.' :: rest) = .ok (n, '.' :: rest) :=
  number_append part hn (by simp)

theorem number_eq_ok {part : Part} {s rest : List Char} {n : Nat}
    (h : number part s = .ok (n, rest)) :
    n < Numeral.limit64 ∧ s = Nat.toDigits 10 n ++ rest := by
  have hsplit := List.takeWhile_append_dropWhile (p := Char.isDigit) (l := s)
  have hall : ∀ c ∈ s.takeWhile Char.isDigit, c.isDigit = true := fun _ => List.mem_takeWhile_imp
  unfold number at h
  dsimp only at h
  generalize s.takeWhile Char.isDigit = digits at h hsplit hall
  generalize s.dropWhile Char.isDigit = rest' at h hsplit
  split at h
  · cases h
  · cases h
  · cases h
  · -- What is left are digits, of which there is one at least, without a leading zero.
    rename_i hzero hnil hcons
    have hdigits : IsDigits digits := by
      refine ⟨?_, hall⟩
      intro hempty
      cases rest' with
      | nil => exact hnil hempty rfl
      | cons c tail => exact hcons c tail hempty rfl
    have hsingle : digits.head? = some '0' → digits = ['0'] := by
      intro hhead
      obtain ⟨tail, rfl⟩ := List.head?_eq_some_iff.mp hhead
      cases tail with
      | nil => rfl
      | cons c tail => exact absurd rfl (hzero c tail)
    rw [Numeral.decimal64?_of_isDigit hdigits] at h
    split at h
    · rename_i m hm
      cases h
      obtain ⟨hlt, rfl⟩ := Numeral.below_eq_some_iff.mp hm
      rw [toDigits_ofDigitChars hdigits hsingle]
      exact ⟨hlt, hsplit.symm⟩
    · cases h

theorem dot_eq_ok_iff {part : Part} {s rest : List Char} :
    dot part s = .ok rest ↔ s = '.' :: rest := by
  unfold dot
  split <;> simp_all

theorem checkIdentifiers_eq_ok_iff {part : Part} {pieces : List (List Char)} :
    checkIdentifiers part pieces = .ok () ↔
      ∀ piece ∈ pieces, piece ≠ [] ∧ (part = .pre → hasLeadingZero piece = false) := by
  induction pieces with
  | nil => simp [checkIdentifiers]
  | cons piece pieces ih =>
    cases piece with
    | nil => simp [checkIdentifiers]
    | cons c piece =>
      rw [List.forall_mem_cons, ← ih, checkIdentifiers]
      · split <;> simp_all
      · exact nofun

theorem identifiers_append {part : Part} {text : String}
    (h : IsIdentifiers part text.toList) {rest : List Char}
    (hrest : ∀ c ∈ rest.head?, (isIdentifierChar c || c == '.') = false) :
    identifiers part (text.toList ++ rest) = .ok (text, rest) := by
  obtain ⟨htake, hdrop⟩ := scan_append h.isChar hrest
  rw [identifiers, htake, hdrop, checkIdentifiers_eq_ok_iff.mpr h.isPiece, String.ofList_toList]
  rfl

theorem identifiers_eq_ok {part : Part} {s rest : List Char} {text : String}
    (h : identifiers part s = .ok (text, rest)) :
    s = text.toList ++ rest ∧ IsIdentifiers part text.toList := by
  rw [identifiers, bind_eq_ok] at h
  obtain ⟨u, hcheck, h⟩ := h
  cases h
  rw [String.toList_ofList]
  exact ⟨List.takeWhile_append_dropWhile.symm,
    ⟨fun _ => List.mem_takeWhile_imp, checkIdentifiers_eq_ok_iff.mp hcheck⟩⟩

theorem IsIdentifiers.ne_empty {part : Part} {text : String} (h : IsIdentifiers part text.toList) :
    text ≠ "" := by
  rintro rfl
  exact (h.isPiece [] (by decide)).1 rfl

theorem optional_eq_ok {mark : Char} {part : Part} {s rest : List Char} {text : Option String}
    (h : optional mark part s = .ok (text, rest)) :
    s = (marked mark (text.getD "")).toList ++ rest ∧
      (text.getD "" ≠ "" → IsIdentifiers part (text.getD "").toList) := by
  unfold optional at h
  split at h
  · split at h
    · rename_i c tail hc
      cases hread : identifiers part tail with
      | error fault =>
        rw [hread] at h
        cases h
      | ok p =>
        rw [hread] at h
        cases h
        obtain ⟨htail, hidentifiers⟩ := identifiers_eq_ok hread
        refine ⟨?_, fun _ => hidentifiers⟩
        rw [Option.getD_some, marked, if_neg hidentifiers.ne_empty, htail, eq_of_beq hc]
        simp
    · cases h
      exact ⟨rfl, fun hne => absurd rfl hne⟩
  · cases h
    exact ⟨rfl, fun hne => absurd rfl hne⟩

theorem optional_marked (mark : Char) {part : Part} {text : String}
    (h : text ≠ "" → IsIdentifiers part text.toList) (rest : List Char)
    (hrest : ∀ c ∈ rest.head?, c ≠ mark ∧ (isIdentifierChar c || c == '.') = false) :
    optional mark part ((marked mark text).toList ++ rest) =
      .ok (if text = "" then none else some text, rest) := by
  unfold marked
  by_cases hempty : text = ""
  · rw [if_pos hempty, if_pos hempty]
    cases rest with
    | nil => rfl
    | cons c rest =>
      show optional mark part (c :: rest) = _
      rw [optional, if_neg (by simpa using (hrest c rfl).1)]
  · have hread : identifiers part (text.toList ++ rest) = .ok (text, rest) :=
      identifiers_append (h hempty) fun c hc => (hrest c hc).2
    rw [if_neg hempty, if_neg hempty, String.toList_append, String.toList_singleton]
    show optional mark part (mark :: (text.toList ++ rest)) = _
    rw [optional, if_pos (beq_self_eq_true mark), hread]
    rfl

theorem getD_of_missing (text : String) :
    (if text = "" then none else some text).getD "" = text := by
  split <;> simp_all

/-! ## Reading -/

theorem isStrict_of_read {s : String} {v : StrictVersion} (h : read s = .ok v) :
    v.IsStrict ∧ v.text = s := by
  unfold read at h
  split at h
  · cases h
  · simp only [bind_eq_ok, Prod.exists, dot_eq_ok_iff] at h
    obtain ⟨major, rest, hmajor, rest₁, rfl, minor, rest₂, hminor, rest₃, rfl, patch, rest₄,
      hpatch, pre, rest₅, hpre, build, rest₆, hbuild, h⟩ := h
    obtain ⟨hltMajor, hs⟩ := number_eq_ok hmajor
    obtain ⟨hltMinor, rfl⟩ := number_eq_ok hminor
    obtain ⟨hltPatch, rfl⟩ := number_eq_ok hpatch
    obtain ⟨rfl, hstrictPre⟩ := optional_eq_ok hpre
    obtain ⟨rfl, hstrictBuild⟩ := optional_eq_ok hbuild
    split at h
    · cases h
      refine ⟨⟨hltMajor, hltMinor, hltPatch, hstrictPre, hstrictBuild⟩, ?_⟩
      rw [← String.toList_inj, hs, toList_text, List.append_nil]
    · cases h

theorem read_text {v : StrictVersion} (hv : v.IsStrict) : read v.text = .ok v := by
  -- Each part ends where the next one starts, since no mark belongs to what stands before it.
  have hplus : ∀ c ∈ (marked '+' v.build).toList.head?, c = '+' := fun _ => head?_marked
  have hmark : ∀ c ∈ ((marked '-' v.pre).toList ++ (marked '+' v.build).toList).head?,
      c = '-' ∨ c = '+' := by
    intro c hc
    rw [List.head?_append, Option.mem_def, Option.or_eq_some_iff] at hc
    exact hc.imp head?_marked fun h => head?_marked h.2
  have hpatch := number_append .patch hv.patch_lt (by
    intro c hc
    rcases hmark c hc with rfl | rfl <;> rfl)
  have hpre := optional_marked '-' hv.pre _ (by
    intro c hc
    rw [hplus c hc]
    decide)
  have hbuild := optional_marked '+' hv.build [] nofun
  have hne : v.text.isEmpty = false := by
    rw [← Bool.not_eq_true, String.isEmpty_iff, ← String.toList_inj, toList_text]
    simp [Nat.toDigits_ne_nil]
  rw [List.append_nil] at hbuild
  rw [read, hne, if_neg Bool.false_ne_true, toList_text]
  simp only [bind_eq_ok, Prod.exists]
  refine ⟨_, _, number_dot .major hv.major_lt _, _, rfl, _, _, number_dot .minor hv.minor_lt _, _,
    rfl, _, _, hpatch, _, _, hpre, _, _, hbuild, ?_⟩
  rw [getD_of_missing, getD_of_missing]
  rfl

/-- **A strict version is read from its own text and from no other.** -/
theorem read_eq_ok_iff {s : String} {v : StrictVersion} :
    read s = .ok v ↔ v.IsStrict ∧ v.text = s := by
  constructor
  · exact isStrict_of_read
  · rintro ⟨hv, rfl⟩
    exact read_text hv

end StrictVersion

end PackQuery
