import Mathlib.Tactic.ByContra
import PackQuery.Proofs.Yaml.Cursor
import PackQuery.Yaml.Scalar.Plain

/-!
# Reading plain scalars

A text that can stand plain is read as it is written.

**Within the text** (`readFrom_append`). Spaces in the text go into the gap and come out of it with
the next character. No character ends the scalar: a colon is not in front of a blank, a number sign
is not behind one, and outside flow collections nothing else does.

**Behind the text** the scalar ends at the colon of a key, or at a next line that is indented less
than the scalar would have to be.
-/

namespace PackQuery.Yaml

open Style (isSpace)

variable {s t rest : List Char} {x p : Char}

/-! ## What can stand plain -/

theorem isPrintable_of_needsEscape (h : Style.needsEscape s = false) :
    ∀ x ∈ s, isPrintable x = true := by
  simp only [Style.needsEscape, Bool.or_eq_false_iff, List.any_eq_false, Bool.not_eq_true,
    Bool.not_eq_false'] at h
  exact h.2

theorem isBlank_eq_isSpace (h : isPrintable x = true) : isBlank x = isSpace x := by
  have htab : x ≠ '\t' := by
    rintro rfl
    cases h
  simp [isBlank, isSpace, htab]

/-- What is asked of a text that stands plain. -/
structure IsPlain (x : Char) (s : List Char) : Prop where
  startsMarked : Style.startsMarked (x :: s) = false
  isInterrupted : Style.isInterrupted x s = false
  isSpace_head : isSpace x = false
  isSpace_last : isSpace (s.getLastD x) = false
  isBreak : ∀ c ∈ x :: s, isBreak c = false
  isPrintable : ∀ c ∈ x :: s, isPrintable c = true

theorem isPlain_of_canBePlain (h : Style.canBePlain (x :: s) = true) : IsPlain x s := by
  simp only [Style.canBePlain, List.getLastD_cons, Bool.not_eq_true', Bool.or_eq_false_iff] at h
  obtain ⟨⟨⟨⟨⟨hmarked, hinterrupted⟩, hhead⟩, hlast⟩, hbreak⟩, hescape⟩ := h
  exact ⟨hmarked, hinterrupted, hhead, hlast,
    fun c hc => by simpa using List.any_eq_false.mp hbreak c hc,
    isPrintable_of_needsEscape hescape⟩

theorem exists_isPlain (h : Style.canBePlain s = true) :
    ∃ x rest, s = x :: rest ∧ IsPlain x rest := by
  cases s with
  | nil => cases h
  | cons x s => exact ⟨x, s, rfl, isPlain_of_canBePlain h⟩

namespace IsPlain

variable {m : Char}

/-- A text that stands plain starts with no mark that has a meaning, -/
theorem ne_openingMark (h : IsPlain x s) (hm : m ∈ Style.openingMarks) : x ≠ m := by
  rintro rfl
  have hmarked := h.startsMarked
  simp only [Style.startsMarked, Bool.or_eq_false_iff, List.contains_eq_mem,
    decide_eq_false_iff_not] at hmarked
  exact hmarked.1.1.1 hm

/-- with a mark that has one in front of a blank only in front of something else, -/
theorem isBlankAhead_eq_false (h : IsPlain x s) (hx : x ∈ Style.guardedMarks) :
    isBlankAhead s = false := by
  have hmarked := h.startsMarked
  simp only [Style.startsMarked, Bool.or_eq_false_iff, List.contains_eq_mem, hx, decide_true,
    Bool.true_and] at hmarked
  exact hmarked.1.1.2

/-- and not like the marks of documents. -/
theorem isPrefixOf_eq_false (h : IsPlain x s) :
    ['-', '-', '-'].isPrefixOf (x :: s) = false ∧ ['.', '.', '.'].isPrefixOf (x :: s) = false := by
  have hmarked := h.startsMarked
  simp only [Style.startsMarked, Bool.or_eq_false_iff] at hmarked
  exact ⟨hmarked.1.2, hmarked.2⟩

theorem isBlank_head (h : IsPlain x s) : isBlank x = false :=
  (isBlank_eq_isSpace (h.isPrintable x List.mem_cons_self)).trans h.isSpace_head

end IsPlain

theorem isBlankAhead_append (h : isBlankAhead s = false) : isBlankAhead (s ++ t) = false := by
  cases s with
  | nil => cases h
  | cons x s => exact h

namespace Plain

variable {indent : Nat} {c : Cursor} {gap : Gap} {read blanks : List Char}

/-! ## Within the text -/

theorem isTightColon_eq_false (s : List Char) : isTightColon false s = false := by
  unfold isTightColon
  split <;> rfl

/-- A colon that ends no text does so whatever follows the text. -/
theorem isEnd_append (h : (x == ':' && isBlankAhead s) = false) (t : List Char) :
    isEnd false (x :: (s ++ t)) = false := by
  cases s with
  | nil => simpa [isEnd, isBlankAhead] using fun hx => absurd hx (by simpa [isBlankAhead] using h)
  | cons y s => simpa [isEnd, isBlankAhead] using h

/-- A number sign ends a text only behind a blank. -/
theorem stopsBehind_blanks (h : blanks = [] ∨ c.sees '#' = false) :
    stopsBehind (.blanks blanks) false indent c = false := by
  rcases h with rfl | h
  · rfl
  · simp [stopsBehind, h, Gap.isBroken]

/-- The characters of a text are read behind those that stand in front of it, of which `p` is the
last one and `blanks` are in the gap. -/
theorem readFrom_append (hrest : c.rest = s ++ t) (hs : Style.isInterrupted p s = false)
    (hbreak : ∀ c ∈ s, isBreak c = false) (hprintable : ∀ c ∈ s, isPrintable c = true)
    (hblanks : blanks ≠ [] → p = ' ') (hlast : isSpace (s.getLastD p) = false) :
    readFrom false indent (s ++ t) (.blanks blanks) read c =
      readFrom false indent t .empty (s.reverse ++ (blanks ++ read)) (c.across s) := by
  induction s generalizing c p blanks read with
  | nil =>
    have hnil : blanks = [] := by
      by_contra hne
      rw [List.getLastD_nil, hblanks hne] at hlast
      cases hlast
    rw [hnil]
    rfl
  | cons x s ih =>
    have hcons : c.rest = x :: (s ++ t) := hrest
    obtain ⟨hx, hbreak⟩ := List.forall_mem_cons.mp hbreak
    obtain ⟨hx', hprintable⟩ := List.forall_mem_cons.mp hprintable
    rw [List.getLastD_cons] at hlast
    simp only [Style.isInterrupted, Bool.or_eq_false_iff] at hs
    obtain ⟨⟨hcolon, hsharp⟩, hs⟩ := hs
    rw [List.cons_append, readFrom, hx, isBlank_eq_isSpace hx', Cursor.nextColumn_eq_step hcons hx]
    have hread : ∀ blanks read, (blanks ≠ [] → x = ' ') →
        readFrom false indent (s ++ t) (.blanks blanks) read (c.step x) =
          readFrom false indent t .empty (s.reverse ++ (blanks ++ read)) ((c.step x).across s) :=
      fun _ _ h => ih (Cursor.rest_step_of_eq hcons) hs hbreak hprintable h hlast
    by_cases hspace : isSpace x = true
    · obtain rfl : x = ' ' := by simpa [isSpace] using hspace
      have hgap := hread (' ' :: blanks) read fun _ => rfl
      simpa [hspace, Gap.addBlank, Gap.isBroken, Cursor.across_cons] using hgap
    · have hstop : stopsBehind (.blanks blanks) false indent c = false := by
        refine stopsBehind_blanks (or_iff_not_imp_left.mpr fun hne => ?_)
        rw [hblanks hne] at hsharp
        rw [Cursor.sees, hcons]
        simpa [isBlankAhead, isBlank] using hsharp
      have hgap := hread [] (x :: (blanks ++ read)) fun h => absurd rfl h
      simpa [hspace, hstop, isTightColon_eq_false, isEnd_append hcolon, Gap.reversed, Gap.empty,
        Cursor.across_cons] using hgap

/-- A text that stands plain is read as far as it goes. -/
theorem readFrom_isPlain (h : IsPlain x s) (hrest : c.rest = x :: s ++ t) :
    readFrom false indent (x :: s ++ t) .empty [] c =
      readFrom false indent t .empty (x :: s).reverse (c.across (x :: s)) := by
  have hsharp : x ≠ '#' := h.ne_openingMark (by decide)
  have hcolon : (x == ':' && isBlankAhead s) = false := by
    by_cases hx : x = ':'
    · rw [h.isBlankAhead_eq_false (by rw [hx]; decide), Bool.and_false]
    · simp [hx]
  have hs : Style.isInterrupted x (x :: s) = false := by
    simp [Style.isInterrupted, hcolon, hsharp, h.isInterrupted]
  have hlast : isSpace ((x :: s).getLastD x) = false := by
    rw [List.getLastD_cons]
    exact h.isSpace_last
  have hread : readFrom false indent (x :: s ++ t) .empty [] c =
      readFrom false indent t .empty ((x :: s).reverse ++ []) (c.across (x :: s)) :=
    readFrom_append hrest hs h.isBreak h.isPrintable (fun hne => absurd rfl hne) hlast
  rwa [List.append_nil] at hread

/-- A text that stands plain starts like a plain scalar. -/
theorem starts_isPlain (h : IsPlain x s) (t : List Char) : starts false (x :: (s ++ t)) = true := by
  by_cases hx : x ∈ Style.guardedMarks
  · have hblank : isBlankAhead (s ++ t) = false := isBlankAhead_append (h.isBlankAhead_eq_false hx)
    simp only [Style.guardedMarks, List.mem_cons, List.not_mem_nil, or_false] at hx
    rcases hx with rfl | rfl | rfl <;> simp [starts, hblank]
  · have hguard : ∀ m ∈ Style.guardedMarks, x ≠ m := by
      rintro m hm rfl
      exact hx hm
    have hopening : ∀ m ∈ Style.openingMarks, x ≠ m := fun m => h.ne_openingMark
    have hbreak := h.isBreak x List.mem_cons_self
    simp only [Style.openingMarks, Style.guardedMarks, List.forall_mem_cons] at hopening hguard
    simp [starts, flowMarks, hopening, hguard, h.isBlank_head, hbreak]

/-! ## Behind the text -/

/-- A key ends at its colon. -/
theorem readFrom_colon (h : isBlankAhead rest = true) :
    readFrom false indent (':' :: rest) .empty read c =
      some (String.ofList read.reverse, false, c) := by
  have hbreak : isBreak ':' = false := rfl
  have hblank : isBlank ':' = false := rfl
  have hstop : stopsBehind .empty false indent c = false := rfl
  have hend : isEnd false (':' :: rest) = true := by simp [isEnd, h]
  rw [readFrom, hbreak, hblank, hstop, isTightColon_eq_false, hend]
  rfl

/-- Behind a line end, a scalar ends where the next line is indented less than it. -/
theorem readFrom_nextLine {first : Option Char} {more : List Char} (hrest : c.rest = s)
    (hs : IsVisible (unindented s)) (hindent : c.column + (indentation s).length < indent) :
    readFrom false indent s (.lines first more) read c =
      some (String.ofList read.reverse, true, c.across (indentation s)) := by
  induction s generalizing c with
  | nil =>
    rw [readFrom, Cursor.with_rest_eq hrest]
    rfl
  | cons x s ih =>
    by_cases hx : isSpace x = true
    · obtain rfl : x = ' ' := by simpa [isSpace] using hx
      rw [unindented, List.dropWhile_cons_of_pos hx] at hs
      rw [indentation, List.takeWhile_cons_of_pos hx] at hindent ⊢
      have hcolumn : (c.step ' ').column = c.column + 1 := rfl
      rw [readFrom, Cursor.nextColumn_eq_step hrest rfl, Cursor.across_cons]
      exact ih (Cursor.rest_step_of_eq hrest) hs (by
        rw [hcolumn, indentation]
        simp only [List.length_cons] at hindent
        omega)
    · rw [unindented, List.dropWhile_cons_of_neg hx] at hs
      rw [indentation, List.takeWhile_cons_of_neg hx] at hindent ⊢
      obtain ⟨hblank, hbreak, -⟩ := hs x rfl
      have hstop : stopsBehind (.lines first more) false indent c = true := by
        have hcolumn : c.column < indent := hindent
        simp [stopsBehind, Gap.isBroken, Gap.isEmpty, Gap.empty, hcolumn]
      rw [readFrom, hbreak, hblank, hstop]
      rfl

/-! ## Plain scalars -/

/-- **A plain key is read up to its colon.** -/
theorem read?_key (h : IsPlain x s) (hrest : c.rest = x :: s ++ ':' :: rest)
    (hblank : isBlankAhead rest = true) :
    read? false indent c = some (String.ofList (x :: s), false, c.across (x :: s)) := by
  rw [read?, hrest, readFrom_isPlain h hrest, readFrom_colon hblank,
    List.reverse_reverse]

/-- **A plain text in front of a line end is read whole**, and the place is in the next line. -/
theorem read?_line (h : IsPlain x s) (hrest : c.rest = x :: s ++ '\n' :: t)
    (ht : IsVisible (unindented t)) (hindent : (indentation t).length < indent) :
    read? false indent c = some (String.ofList (x :: s), true, .lineStart (c.line + 1) t) := by
  have hover := Cursor.rest_across hrest
  have hline : (c.across (x :: s)).line = c.line := by
    rw [Cursor.across_of_isBreak_eq_false hrest h.isBreak]
  have hnext : readFrom false indent t (.lines (some '\n') []) (x :: s).reverse
      ((c.across (x :: s)).step '\n') = _ :=
    readFrom_nextLine (Cursor.rest_step_of_eq hover) ht (by
      show 0 + _ < _
      rwa [Nat.zero_add])
  rw [read?, hrest, readFrom_isPlain h hrest, readFrom,
    if_pos (show isBreak '\n' = true from rfl), Cursor.nextLine_eq_step hover rfl]
  refine hnext.trans ?_
  rw [List.reverse_reverse, Cursor.across_break hover rfl, hline]

end Plain

end PackQuery.Yaml
