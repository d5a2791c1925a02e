import PackQuery.Yaml.Cursor
import PackQuery.Yaml.Scalar.Style

/-!
# Moving through a YAML text

How the place changes over some characters (`Cursor.across`), and where skipping ends.

**Within a line** the column grows by the number of the characters and the width by their bytes, and
the line stays. **Over a line end** the place is at the start of the next line, so only the blanks
behind the last line end count (`Cursor.lineStart`).

**Skipping** ends at the next visible character (`IsVisible`), and over a line end it ends at the
first visible character of the next line (`Cursor.skip_break`).
-/

namespace PackQuery.Yaml

open Style (isSpace)

variable {s t : List Char} {x : Char}

/-- The bytes of some characters. -/
def bytes : List Char → Nat
  | [] => 0
  | x :: s => x.utf8Size + bytes s

theorem utf8ByteSize_ofList (s : List Char) : (String.ofList s).utf8ByteSize = bytes s := by
  induction s with
  | nil => rfl
  | cons x s ih =>
    have hx : (String.ofList [x]).utf8ByteSize = x.utf8Size := String.utf8ByteSize_singleton
    rw [← List.singleton_append, String.ofList_append, String.utf8ByteSize_append, ih, hx]
    rfl

theorem bytes_toList (s : String) : bytes s.toList = s.utf8ByteSize := by
  rw [← utf8ByteSize_ofList, String.ofList_toList]

theorem bytes_cons (x : Char) (s : List Char) : bytes (x :: s) = x.utf8Size + bytes s := rfl

theorem bytes_append (s t : List Char) : bytes (s ++ t) = bytes s + bytes t := by
  induction s with
  | nil => exact (Nat.zero_add _).symm
  | cons x s ih => rw [List.cons_append, bytes_cons, bytes_cons, ih, Nat.add_assoc]

theorem bytes_eq_length (h : ∀ x ∈ s, x.utf8Size = 1) : bytes s = s.length := by
  induction s with
  | nil => rfl
  | cons x s ih =>
    obtain ⟨hx, hs⟩ := List.forall_mem_cons.mp h
    rw [bytes_cons, hx, ih hs, List.length_cons, Nat.add_comm]

/-! ## Visible characters -/

/-- Whether some characters, if there are any, start with one that skipping stops at. -/
def IsVisible (s : List Char) : Prop :=
  ∀ x ∈ s.head?, isBlank x = false ∧ isBreak x = false ∧ x ≠ '#' ∧ x ≠ '\ufeff'

theorem isVisible_nil : IsVisible [] := nofun

theorem isVisible_cons (hblank : isBlank x = false) (hbreak : isBreak x = false) (hsharp : x ≠ '#')
    (hmark : x ≠ '\ufeff') : IsVisible (x :: s) := by
  intro y hy
  cases hy
  exact ⟨hblank, hbreak, hsharp, hmark⟩

theorem isVisible_colon (s : List Char) : IsVisible (':' :: s) :=
  isVisible_cons rfl rfl (by decide) (by decide)

theorem isBreak_replicate (n : Nat) : ∀ x ∈ List.replicate n ' ', isBreak x = false := by
  intro x hx
  rw [List.eq_of_mem_replicate hx]
  rfl

/-- The blanks of the indentation of a line. -/
def indentation (s : List Char) : List Char := s.takeWhile isSpace

/-- A line without its indentation. -/
def unindented (s : List Char) : List Char := s.dropWhile isSpace

theorem indentation_append_unindented (s : List Char) : indentation s ++ unindented s = s :=
  List.takeWhile_append_dropWhile

theorem isSpace_of_mem_indentation (h : x ∈ indentation s) : x = ' ' := by
  simpa [isSpace] using List.all_eq_true.mp List.all_takeWhile x h

theorem indentation_eq_replicate (s : List Char) :
    indentation s = List.replicate (indentation s).length ' ' :=
  List.eq_replicate_of_mem fun _ => isSpace_of_mem_indentation

theorem isBreak_indentation (s : List Char) : ∀ x ∈ indentation s, isBreak x = false := by
  rw [indentation_eq_replicate]
  exact isBreak_replicate _

theorem IsVisible.isSpace_eq_false (h : IsVisible (x :: s)) : isSpace x = false := by
  have hblank := (h x rfl).1
  simp only [isBlank, Bool.or_eq_false_iff] at hblank
  exact hblank.1

theorem indentation_of_isVisible (h : IsVisible s) : indentation s = [] := by
  cases s with
  | nil => rfl
  | cons x s => exact List.takeWhile_cons_of_neg (by simp [h.isSpace_eq_false])

theorem unindented_of_isVisible (h : IsVisible s) : unindented s = s := by
  cases s with
  | nil => rfl
  | cons x s => exact List.dropWhile_cons_of_neg (by simp [h.isSpace_eq_false])

theorem indentation_replicate_append (h : IsVisible s) (k : Nat) :
    indentation (List.replicate k ' ' ++ s) = List.replicate k ' ' := by
  induction k with
  | zero => exact indentation_of_isVisible h
  | succ k ih => exact congrArg (' ' :: ·) ih

theorem unindented_replicate_append (h : IsVisible s) (k : Nat) :
    unindented (List.replicate k ' ' ++ s) = s := by
  induction k with
  | zero => exact unindented_of_isVisible h
  | succ k ih => exact ih

namespace Cursor

variable {c : Cursor}

/-! ## Over characters -/

/-- Behind the character at the place. -/
def step (c : Cursor) (x : Char) : Cursor :=
  if isBreak x then c.nextLine (c.rest.drop 1) else c.nextColumn x (c.rest.drop 1)

/-- Behind some characters that stand at the place. -/
def across (c : Cursor) (s : List Char) : Cursor := s.foldl step c

@[simp] theorem across_nil (c : Cursor) : c.across [] = c := rfl

theorem across_cons (c : Cursor) (x : Char) (s : List Char) :
    c.across (x :: s) = (c.step x).across s :=
  rfl

theorem across_append (c : Cursor) (s t : List Char) : c.across (s ++ t) = (c.across s).across t :=
  List.foldl_append

theorem rest_step (c : Cursor) (x : Char) : (c.step x).rest = c.rest.drop 1 := by
  unfold step
  split <;> rfl

theorem rest_step_of_eq (h : c.rest = x :: s) : (c.step x).rest = s := by rw [rest_step, h]; rfl

theorem rest_across (h : c.rest = s ++ t) : (c.across s).rest = t := by
  induction s generalizing c with
  | nil => exact h
  | cons x s ih => exact ih (rest_step_of_eq h)

theorem nextLine_eq_step (h : c.rest = x :: s) (hx : isBreak x = true) :
    c.nextLine s = c.step x := by
  rw [step, if_pos hx, h]
  rfl

theorem nextColumn_eq_step (h : c.rest = x :: s) (hx : isBreak x = false) :
    c.nextColumn x s = c.step x := by
  rw [step, if_neg (by simp [hx]), h]
  rfl

/-- At the end of the text the place stays. -/
theorem with_rest_eq (h : c.rest = s) : { c with rest := s } = c := by rw [← h]

theorem line_le_across (c : Cursor) (s : List Char) : c.line ≤ (c.across s).line := by
  induction s generalizing c with
  | nil => exact Nat.le_refl _
  | cons x s ih =>
    refine Nat.le_trans ?_ (ih (c.step x))
    unfold step
    split
    · exact Nat.le_succ c.line
    · exact Nat.le_refl _

/-- Within a line, columns count characters and the width counts bytes. -/
theorem across_of_isBreak_eq_false (hrest : c.rest = s ++ t) (h : ∀ x ∈ s, isBreak x = false) :
    c.across s = { rest := t, line := c.line, column := c.column + s.length,
                   width := c.width + bytes s } := by
  induction s generalizing c with
  | nil =>
    rw [← show c.rest = t from hrest]
    rfl
  | cons x s ih =>
    obtain ⟨hx, hs⟩ := List.forall_mem_cons.mp h
    rw [across_cons, ih (rest_step_of_eq hrest) hs, step, if_neg (by simp [hx])]
    simp only [nextColumn, bytes_cons, List.length_cons]
    congr 1 <;> omega

theorem past_eq_across (hrest : c.rest = s ++ t) (h : ∀ x ∈ s, isBreak x = false) :
    c.past s.length = c.across s := by
  induction s generalizing c with
  | nil => rfl
  | cons x s ih =>
    obtain ⟨hx, hs⟩ := List.forall_mem_cons.mp h
    have hcons : c.rest = x :: (s ++ t) := hrest
    have hpast : c.past (s.length + 1) = (c.nextColumn x (s ++ t)).past s.length := by
      rw [past, hcons]
    rw [List.length_cons, hpast, nextColumn_eq_step hcons hx, ih (rest_step_of_eq hcons) hs,
      across_cons]

theorem past_one_eq_across (hrest : c.rest = x :: t) (hx : isBreak x = false) :
    c.past 1 = c.across [x] :=
  past_eq_across (s := [x]) hrest (List.forall_mem_singleton.mpr hx)

theorem upTo_eq_across (hrest : c.rest = s ++ t) (h : ∀ x ∈ s, isBreak x = false) :
    c.upTo t = c.across s := by
  rw [upTo, hrest, List.length_append, Nat.add_sub_cancel, past_eq_across hrest h]

/-! ## Lines -/

/-- The place of the first character of a line that is no blank of its indentation. -/
def lineStart (line : Nat) (s : List Char) : Cursor where
  rest := unindented s
  line
  column := (indentation s).length
  width := (indentation s).length

theorem lineStart_replicate (hs : IsVisible s) (n k : Nat) :
    lineStart n (List.replicate k ' ' ++ s) =
      { rest := s, line := n, column := k, width := k } := by
  rw [lineStart, unindented_replicate_append hs, indentation_replicate_append hs,
    List.length_replicate]

/-- Whether a place is at the start of a line. -/
def IsAtStart (c : Cursor) : Prop := c.column = 0 ∧ c.width = 0

theorem isAtStart_step (hx : isBreak x = true) : (c.step x).IsAtStart := by
  rw [step, if_pos hx]
  exact ⟨rfl, rfl⟩

theorem across_indentation (h : c.IsAtStart) (hrest : c.rest = s) :
    c.across (indentation s) = lineStart c.line s := by
  have hbytes : bytes (indentation s) = (indentation s).length := by
    refine bytes_eq_length fun x hx => ?_
    rw [isSpace_of_mem_indentation hx]
    rfl
  rw [← indentation_append_unindented s] at hrest
  rw [across_of_isBreak_eq_false hrest (isBreak_indentation s), h.1, h.2, hbytes, Nat.zero_add]
  rfl

theorem across_break (hrest : c.rest = x :: s) (hx : isBreak x = true) :
    (c.step x).across (indentation s) = lineStart (c.line + 1) s := by
  rw [across_indentation (isAtStart_step hx) (rest_step_of_eq hrest), step, if_pos hx]
  rfl

/-! ## Skipping -/

theorem skipFrom_indentation (hrest : c.rest = s) (hs : IsVisible (unindented s))
    (flow fresh : Bool) :
    skipFrom flow false fresh s c = (c.across (indentation s), fresh) := by
  induction s generalizing c with
  | nil => rw [skipFrom, with_rest_eq hrest]; rfl
  | cons x s ih =>
    by_cases hx : isSpace x = true
    · rw [unindented, List.dropWhile_cons_of_pos hx] at hs
      rw [indentation, List.takeWhile_cons_of_pos hx, across_cons]
      obtain rfl : x = ' ' := by simpa [isSpace] using hx
      rw [skipFrom, nextColumn_eq_step hrest rfl]
      exact ih (rest_step_of_eq hrest) hs
    · rw [unindented, List.dropWhile_cons_of_neg hx] at hs
      rw [indentation, List.takeWhile_cons_of_neg hx, across_nil]
      obtain ⟨hblank, hbreak, hsharp, hmark⟩ := hs x rfl
      simp only [isBlank, Bool.or_eq_false_iff] at hblank
      simp [skipFrom, hbreak, hblank, hsharp, hmark, with_rest_eq hrest]

/-- Within a line, skipping leads over blanks. -/
theorem skip_indentation (hrest : c.rest = s) (hs : IsVisible (unindented s)) (flow fresh : Bool) :
    c.skip flow fresh = (c.across (indentation s), fresh) := by
  rw [skip, hrest, skipFrom_indentation hrest hs]

theorem skip_of_isVisible (h : IsVisible c.rest) (flow fresh : Bool) :
    c.skip flow fresh = (c, fresh) := by
  have hunindented : IsVisible (unindented c.rest) := by rwa [unindented_of_isVisible h]
  rw [skip_indentation rfl hunindented, indentation_of_isVisible h, across_nil]

/-- A line end leads to the next line, where a key may start. -/
theorem skip_break (hrest : c.rest = '\n' :: s) (hs : IsVisible (unindented s)) (fresh : Bool) :
    c.skip false fresh = (lineStart (c.line + 1) s, true) := by
  have hskip : c.skip false fresh = skipFrom false false true s (c.nextLine s) := by
    rw [skip, hrest, skipFrom, if_pos (show isBreak '\n' = true from rfl), Bool.not_false,
      Bool.or_true]
  rw [hskip, nextLine_eq_step hrest rfl, skipFrom_indentation (rest_step_of_eq hrest) hs,
    across_break hrest rfl]

/-! ## Marks of documents -/

/-- Neither behind the start of a line nor in front of another character is there a mark. -/
theorem atStart_atStop_eq_false (h : c.column ≠ 0 ∨ ∀ x ∈ c.rest.head?, x ≠ '-' ∧ x ≠ '.') :
    c.atStart = false ∧ c.atStop = false := by
  rcases h with h | h
  · simp [atStart, atStop, isMarker, h]
  · cases hrest : c.rest with
    | nil => simp [atStart, atStop, isMarker, hrest]
    | cons x s =>
      obtain ⟨hdash, hdot⟩ := h x (by rw [hrest]; rfl)
      simp [atStart, atStop, isMarker, hrest, List.isPrefixOf, hdash.symm, hdot.symm]

end Cursor

end PackQuery.Yaml
