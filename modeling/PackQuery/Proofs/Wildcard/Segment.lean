import Mathlib.Tactic.SplitIfs
import PackQuery.Wildcard.Basic
import PackQuery.Proofs.Text.Cut

/-!
# Segments of a pattern

A pattern is a row of segments: marks, other characters, and classes. Where a class ends is told by
its brackets alone: at the first closing bracket that is not its first member (`splitClass?`). A
pattern with a class that is left open has no segments (`segments?`).

The regular expression of a pattern is made character by character. It consists of the expressions
of the segments, and a class is its own expression (`expression_bracket`, `expression_cons`).
-/

namespace PackQuery.Wildcard

/-- A part of a pattern. -/
inductive Segment where
  /-- A question mark: any one character but the line feed. -/
  | one
  /-- A star: any run of such characters. -/
  | run
  /-- Any other character, for itself. -/
  | char (c : Char)
  /-- A class with the text between its brackets. -/
  | bracket (body : List Char)
deriving DecidableEq, Repr

/-- The segment of a character outside classes. -/
def Segment.ofChar (c : Char) : Segment :=
  if c = '?' then .one else if c = '*' then .run else .char c

/-- The text of a class with its brackets. -/
def classText (body : List Char) : List Char := '[' :: (body ++ [']'])

/-! ## Classes of a pattern -/

/-- The body of a class that begins with `front` and ends at the next closing bracket, and the
characters behind the class. -/
def closeClass? (front s : List Char) : Option (List Char × List Char) :=
  (Chars.cut? [']'] s).map fun (tail, rest) => (front ++ tail, rest)

/-- The body of the class whose opening bracket stands before some characters, and the characters
behind the class. A closing bracket does not end it as its first character, or as the first one
behind a caret. -/
def splitClass? : List Char → Option (List Char × List Char)
  | '^' :: c :: s => closeClass? ['^', c] s
  | c :: s => closeClass? [c] s
  | [] => none

theorem closeClass?_eq_some {front s body rest : List Char}
    (h : closeClass? front s = some (body, rest)) :
    ∃ tail, ']' ∉ tail ∧ body = front ++ tail ∧ front ++ s = body ++ ']' :: rest := by
  obtain ⟨⟨tail, rest'⟩, hcut, heq⟩ := Option.map_eq_some_iff.mp h
  cases heq
  refine ⟨tail, Chars.not_mem_of_cut? hcut, rfl, ?_⟩
  rw [Chars.cut?_eq_some hcut]
  simp

theorem closeClass?_append {tail : List Char} (h : ']' ∉ tail) (front : List Char) :
    closeClass? front (tail ++ [']']) = some (front ++ tail, []) := by
  rw [closeClass?, Chars.cut?_append_cons h]
  rfl

theorem closeClass?_eq_none {front s : List Char} (h : closeClass? front s = none) : ']' ∉ s :=
  Chars.cut?_eq_none_iff.mp (Option.map_eq_none_iff.mp h)

theorem splitClass?_eq_some {s body rest : List Char} (h : splitClass? s = some (body, rest)) :
    s = body ++ ']' :: rest := by
  unfold splitClass? at h
  split at h
  · obtain ⟨-, -, -, heq⟩ := closeClass?_eq_some h
    exact heq
  · obtain ⟨-, -, -, heq⟩ := closeClass?_eq_some h
    exact heq
  · cases h

/-- A class ends where it ends in front of other characters. -/
theorem splitClass?_append {s body rest : List Char} (h : splitClass? s = some (body, rest)) :
    splitClass? (body ++ [']']) = some (body, []) := by
  unfold splitClass? at h
  split at h
  · obtain ⟨tail, htail, rfl, -⟩ := closeClass?_eq_some h
    exact closeClass?_append htail _
  · rename_i c s hcaret
    obtain ⟨tail, htail, rfl, -⟩ := closeClass?_eq_some h
    have hc : c ≠ '^' := by
      rintro rfl
      cases s with
      | nil => cases h
      | cons d s => exact hcaret d s rfl rfl
    rw [← closeClass?_append htail [c], List.append_assoc, List.singleton_append, splitClass?]
    exact fun _ _ heq _ => hc heq
  · cases h

/-- The segments of a pattern, if all its classes are closed. -/
def segments? : List Char → Option (List Segment)
  | [] => some []
  | c :: s =>
    if c = '[' then
      match _h : splitClass? s with
      | some (body, rest) => (segments? rest).map (.bracket body :: ·)
      | none => none
    else (segments? s).map (Segment.ofChar c :: ·)
termination_by s => s.length
decreasing_by
  · have hlength := congrArg List.length (splitClass?_eq_some ‹_›)
    simp only [List.length_append, List.length_cons] at hlength ⊢
    omega
  · exact Nat.lt_succ_self _

/-- The classes of a pattern are closed on their own. -/
theorem splitClass?_of_mem {p : List Char} {segs : List Segment} (h : segments? p = some segs)
    {body : List Char} (hbody : .bracket body ∈ segs) :
    splitClass? (body ++ [']']) = some (body, []) := by
  fun_induction segments? p generalizing segs with
  | case1 =>
    cases h
    cases hbody
  | case2 s body' rest hsplit ih =>
    obtain ⟨segs', hsegs', rfl⟩ := Option.map_eq_some_iff.mp h
    rcases List.mem_cons.mp hbody with heq | hmem
    · cases heq
      exact splitClass?_append hsplit
    · exact ih hsegs' hmem
  | case3 s hsplit => cases h
  | case4 c s hc ih =>
    obtain ⟨segs', hsegs', rfl⟩ := Option.map_eq_some_iff.mp h
    rcases List.mem_cons.mp hbody with heq | hmem
    · unfold Segment.ofChar at heq
      split_ifs at heq
    · exact ih hsegs' hmem

theorem segments?_of_not_mem {p : List Char} (h : '[' ∉ p) :
    segments? p = some (p.map Segment.ofChar) := by
  induction p with
  | nil => rw [segments?]; rfl
  | cons c s ih =>
    obtain ⟨hc, hs⟩ := not_or.mp (mt List.mem_cons.mpr h)
    rw [segments?, if_neg (Ne.symm hc), ih hs]
    rfl

/-! ## The expressions of the segments -/

theorem expressionFrom_first_cons {c : Char} {s : List Char} (h : c = '^' → s = []) :
    expressionFrom .first (c :: s) = c :: expressionFrom .within s := by
  by_cases hc : c = '^'
  · rw [h hc, hc]
    rfl
  · have hnext : Place.next .first c = .within := by
      unfold Place.next
      split <;> simp_all
    rw [expressionFrom, hnext]
    exact nofun

theorem expressionFrom_within_cons {c : Char} (h : c ≠ ']') (s : List Char) :
    expressionFrom .within (c :: s) = c :: expressionFrom .within s := by
  have hnext : Place.next .within c = .within := by
    unfold Place.next
    split <;> simp_all
  rw [expressionFrom, hnext]
  exact nofun

theorem expressionFrom_within (s : List Char) :
    expressionFrom .within s =
      match Chars.cut? [']'] s with
      | some (tail, rest) => tail ++ ']' :: expression rest
      | none => s := by
  induction s with
  | nil => rfl
  | cons c s ih =>
    rw [Chars.cut?_singleton_cons]
    by_cases hc : c = ']'
    · rw [if_pos hc, hc]
      rfl
    · rw [if_neg hc, expressionFrom_within_cons hc, ih]
      cases Chars.cut? [']'] s <;> rfl

theorem append_expressionFrom_within (front s : List Char) :
    front ++ expressionFrom .within s =
      match closeClass? front s with
      | some (body, rest) => body ++ ']' :: expression rest
      | none => front ++ s := by
  rw [expressionFrom_within, closeClass?]
  cases Chars.cut? [']'] s <;> simp

/-- **A class is its own expression,** and so is what follows a bracket that is never closed. -/
theorem expression_bracket (s : List Char) :
    expression ('[' :: s) =
      match splitClass? s with
      | some (body, rest) => classText body ++ expression rest
      | none => '[' :: s := by
  have hopen : expression ('[' :: s) = '[' :: expressionFrom .first s := rfl
  have hfirst : expressionFrom .first s =
      match splitClass? s with
      | some (body, rest) => body ++ ']' :: expression rest
      | none => s := by
    fun_cases splitClass? s with
    | case1 c s => exact append_expressionFrom_within ['^', c] s
    | case2 c s hcaret =>
      rw [expressionFrom_first_cons ?_]
      · exact append_expressionFrom_within [c] s
      · rintro rfl
        cases s with
        | nil => rfl
        | cons d s => exact absurd rfl (hcaret d s rfl)
    | case3 => rfl
  rw [hopen, hfirst]
  cases splitClass? s <;> simp [classText]

theorem expression_cons {c : Char} (hc : c ≠ '[') (s : List Char) :
    expression (c :: s) = outsideClass c ++ expression s := by
  rw [expression, expressionFrom, if_neg (by simpa using hc)]
  rfl

end PackQuery.Wildcard
