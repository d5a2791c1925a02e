import PackQuery.Proofs.Yaml.Cursor
import PackQuery.Yaml.Scalar.Block

/-!
# Reading literal blocks

A text written as a literal block is read back from there.

**Header.** The marks of increment and chomping are read in all six combinations
(`header?_marks`). With or without a digit, the block is indented two columns behind its parent.

**Lines.** The text so far is what has been read, followed by the end of the last line and the blank
lines since then (`Progress.Holds`). One character of the text preserves this, and so do all of
them (`readLines_linesFrom`).

**End.** The line end that the block adds is taken away by the chomping of the text
(`Progress.Holds.text_endLine`), or is the last one of the text (`Progress.Holds.text_eq`). The
block ends at the first line that is not indented as far.
-/

namespace PackQuery.Yaml.Block

open Style (isSpace)

variable {s t r u inc : List Char} {x : Char} {c : Cursor} {indent : Nat} {h : Header}
  {p : Progress} {chomping : Chomping}

/-! ## The header -/

/-- The header that marks of increment and chomping make. -/
theorem header?_marks (hinc : inc = [] ∨ inc = ['2'])
    (hrest : c.rest = '|' :: inc ++ chomping.mark ++ '\n' :: u) :
    header? c = some ({ style := .literal, chomping,
                        increment := if inc.isEmpty then none else some 2 },
      c.across ('|' :: inc ++ chomping.mark)) := by
  have hbreak : ∀ x ∈ '|' :: inc ++ chomping.mark, isBreak x = false := by
    rcases hinc with rfl | rfl <;> cases chomping <;> simp [isBreak, Chomping.mark]
  rw [← Cursor.upTo_eq_across hrest hbreak, header?, hrest]
  rcases hinc with rfl | rfl <;> cases chomping <;> rfl

/-- Behind the blanks of a line, the indentation is that of the line. -/
theorem widestIndent?_replicate (hspace : isSpace x = false) (hbreak : isBreak x = false)
    (htab : x ≠ '\t') (column k : Nat) :
    widestIndent? column 0 (List.replicate k ' ' ++ x :: u) = some (column + k) := by
  induction k generalizing column with
  | zero =>
    simp only [isSpace, beq_eq_false_iff_ne] at hspace
    simp [widestIndent?, hspace, hbreak, htab]
  | succ k ih =>
    rw [List.replicate_succ, List.cons_append, widestIndent?, if_pos (by rfl), ih]
    congr 1
    omega

/-! ## The lines -/

/-- Whether what has been read of a block makes up a text, the last character first. -/
structure Progress.Holds (p : Progress) (r : List Char) : Prop where
  whole : p.blankLines ++ p.lineEnd ++ p.read = r
  inLine : p.inLine = r.head?.any (!isBreak ·)
  /-- Within a line nothing is kept back. -/
  pending : p.inLine = true → p.blankLines = [] ∧ p.lineEnd = []
  /-- Right behind the end of a line there is no blank one. -/
  blankLines : ∀ b d v, r = b :: d :: v → isBreak d = false → p.blankLines = []

theorem Progress.holds_nil : ({} : Progress).Holds [] := ⟨rfl, rfl, fun _ => ⟨rfl, rfl⟩, nofun⟩

namespace Progress.Holds

theorem continueLine (hp : p.Holds r) (hline : p.inLine = true) (hx : isBreak x = false) :
    ({ p with read := x :: p.read } : Progress).Holds (x :: r) := by
  obtain ⟨hblank, hend⟩ := hp.pending hline
  refine ⟨?_, ?_, fun _ => ⟨hblank, hend⟩, fun _ _ _ _ _ => hblank⟩
  · rw [← hp.whole, hblank, hend]
    rfl
  · simp [hline, hx]

theorem endLine (hp : p.Holds r) (hline : p.inLine = true) (hx : isBreak x = true) :
    ({ p with inLine := false, lineEnd := [x] } : Progress).Holds (x :: r) := by
  obtain ⟨hblank, hend⟩ := hp.pending hline
  refine ⟨?_, ?_, nofun, fun _ _ _ _ _ => hblank⟩
  · rw [← hp.whole, hblank, hend]
    rfl
  · simp [hx]

theorem blankLine (hp : p.Holds r) (hline : p.inLine = false) (hx : isBreak x = true) :
    ({ p with blankLines := x :: p.blankLines } : Progress).Holds (x :: r) := by
  refine ⟨?_, ?_, fun h => ?_, ?_⟩
  · rw [← hp.whole]
    rfl
  · simp [hline, hx]
  · rw [hline] at h
    cases h
  · rintro b d v hcons hd
    injection hcons with _ hr
    have hin := hp.inLine
    rw [hline, hr] at hin
    simp [hd] at hin

theorem startLine (hp : p.Holds r) (hx : isBreak x = false) :
    (p.startLine .literal x).Holds (x :: r) := by
  refine ⟨?_, ?_, fun _ => ⟨rfl, rfl⟩, fun _ _ _ _ _ => rfl⟩
  · rw [← hp.whole]
    rfl
  · simp [Progress.startLine, hx]

end Progress.Holds

theorem linesFrom_break (hx : isBreak x = true) (newLine : Bool) :
    linesFrom indent newLine (x :: s) = x :: linesFrom indent true s := by
  rw [linesFrom, if_pos hx]

theorem linesFrom_char (hx : isBreak x = false) (newLine : Bool) :
    linesFrom indent newLine (x :: s) =
      (if newLine then List.replicate indent ' ' else []) ++ x :: linesFrom indent false s := by
  rw [linesFrom, if_neg (by simp [hx])]

/-- The blanks in front of a line do not count. -/
theorem readLines_replicate {k : Nat} (hline : p.inLine = false)
    (hrest : c.rest = List.replicate k ' ' ++ u) (hcolumn : c.column + k ≤ indent) :
    readLines h indent (List.replicate k ' ' ++ u) p c =
      readLines h indent u p (c.across (List.replicate k ' ')) := by
  induction k generalizing c with
  | zero => rfl
  | succ k ih =>
    have hcons : c.rest = ' ' :: (List.replicate k ' ' ++ u) := hrest
    have hstep : (c.step ' ').column + k ≤ indent := by
      show c.column + 1 + k ≤ indent
      omega
    have hlt : c.column < indent := by omega
    rw [List.replicate_succ, List.cons_append, readLines, Cursor.across_cons,
      Cursor.nextColumn_eq_step hcons rfl]
    simpa [hline, hlt] using ih (Cursor.rest_step_of_eq hcons) hstep

theorem readLines_endLine (hline : p.inLine = true) (hx : isBreak x = true)
    (hrest : c.rest = x :: u) :
    readLines h indent (x :: u) p c =
      readLines h indent u { p with inLine := false, lineEnd := [x] } (c.across [x]) := by
  rw [readLines, if_pos hline, if_pos hx, Cursor.nextLine_eq_step hrest hx]
  rfl

theorem readLines_continueLine (hline : p.inLine = true) (hx : isBreak x = false)
    (hrest : c.rest = x :: u) :
    readLines h indent (x :: u) p c =
      readLines h indent u { p with read := x :: p.read } (c.across [x]) := by
  rw [readLines, if_pos hline, if_neg (by simp [hx]), Cursor.nextColumn_eq_step hrest hx]
  rfl

theorem readLines_blankLine (hline : p.inLine = false) (hx : isBreak x = true)
    (hrest : c.rest = x :: u) :
    readLines h indent (x :: u) p c =
      readLines h indent u { p with blankLines := x :: p.blankLines } (c.across [x]) := by
  have hne : x ≠ ' ' ∧ x ≠ '\t' := by
    constructor <;> rintro rfl <;> cases hx
  rw [readLines, Cursor.nextLine_eq_step hrest hx]
  simp [hline, hx, hne, Cursor.across_cons]

/-- The blanks of the indentation do not count, and the character behind them starts a line. -/
theorem readLines_startLine (hline : p.inLine = false) (hstart : c.IsAtStart)
    (hx : isBreak x = false) (hrest : c.rest = List.replicate indent ' ' ++ [x] ++ u) :
    readLines h indent (List.replicate indent ' ' ++ [x] ++ u) p c =
      readLines h indent u (p.startLine h.style x)
        (c.across (List.replicate indent ' ' ++ [x])) := by
  rw [List.append_assoc, List.singleton_append] at hrest ⊢
  have hcolumn : (c.across (List.replicate indent ' ')).column = indent := by
    rw [Cursor.across_of_isBreak_eq_false hrest (isBreak_replicate indent), hstart.1,
      List.length_replicate, Nat.zero_add]
  have hle : c.column + indent ≤ indent := Nat.le_of_eq (by rw [hstart.1, Nat.zero_add])
  rw [readLines_replicate hline hrest hle, readLines,
    Cursor.nextColumn_eq_step (Cursor.rest_across hrest) hx, hcolumn]
  simp [hline, hx, Cursor.across_append, Cursor.across_cons]

/-- One character of a text goes into what has been read. -/
theorem exists_readLines_char (hstyle : h.style = .literal) (hp : p.Holds r)
    (hstart : p.inLine = false → c.IsAtStart) (x : Char) :
    ∃ written, ∃ p' : Progress, p'.Holds (x :: r) ∧
      (∀ s, linesFrom indent (!p.inLine) (x :: s) = written ++ linesFrom indent (!p'.inLine) s) ∧
      ∀ u, c.rest = written ++ u →
        readLines h indent (written ++ u) p c = readLines h indent u p' (c.across written) ∧
        (p'.inLine = false → (c.across written).IsAtStart) := by
  cases hx : isBreak x with
  | true =>
    cases hline : p.inLine with
    | true =>
      exact ⟨[x], _, hp.endLine hline hx, fun s => linesFrom_break hx _, fun u hrest =>
        ⟨readLines_endLine hline hx hrest, fun _ => Cursor.isAtStart_step hx⟩⟩
    | false =>
      refine ⟨[x], _, hp.blankLine hline hx, fun s => ?_, fun u hrest =>
        ⟨readLines_blankLine hline hx hrest, fun _ => Cursor.isAtStart_step hx⟩⟩
      rw [hline]
      exact linesFrom_break hx _
  | false =>
    cases hline : p.inLine with
    | true =>
      refine ⟨[x], _, hp.continueLine hline hx, fun s => ?_, fun u hrest =>
        ⟨readLines_continueLine hline hx hrest, fun h => ?_⟩⟩
      · rw [hline]
        exact linesFrom_char hx _
      · rw [hline] at h
        cases h
    | false =>
      refine ⟨List.replicate indent ' ' ++ [x], _, hp.startLine hx, fun s => ?_, fun u hrest =>
        ⟨?_, nofun⟩⟩
      · rw [List.append_assoc]
        exact linesFrom_char hx _
      · rw [readLines_startLine hline (hstart hline) hx hrest, hstyle]

/-- A text goes line by line into what has been read, and the place is behind it. -/
theorem readLines_linesFrom (hstyle : h.style = .literal) (hp : p.Holds r)
    (hstart : p.inLine = false → c.IsAtStart)
    (hrest : c.rest = linesFrom indent (!p.inLine) s ++ t) :
    ∃ p' : Progress, p'.Holds (s.reverse ++ r) ∧
      (p'.inLine = false → (c.across (linesFrom indent (!p.inLine) s)).IsAtStart) ∧
      readLines h indent (linesFrom indent (!p.inLine) s ++ t) p c =
        readLines h indent t p' (c.across (linesFrom indent (!p.inLine) s)) := by
  induction s generalizing p r c with
  | nil => exact ⟨p, hp, hstart, rfl⟩
  | cons x s ih =>
    obtain ⟨written, p₁, hp₁, hlines, hread⟩ := exists_readLines_char hstyle hp hstart x
    rw [hlines, List.append_assoc] at hrest
    obtain ⟨hread₁, hstart₁⟩ := hread _ hrest
    obtain ⟨p₂, hp₂, hstart₂, hread₂⟩ := ih hp₁ hstart₁ (Cursor.rest_across hrest)
    rw [List.reverse_cons, List.append_assoc, List.singleton_append, hlines, List.append_assoc,
      Cursor.across_append]
    exact ⟨p₂, hp₂, hstart₂, hread₁.trans hread₂⟩

/-! ## The end -/

/-- In front of a line end, the chomping keeps as many line ends as the text has. -/
theorem Progress.Holds.text_eq (hp : p.Holds s.reverse) (hline : p.inLine = false) (hs : s ≠ []) :
    p.text (chompingOf s) = s := by
  have hwhole : (p.blankLines ++ p.lineEnd ++ p.read).reverse = s := by
    rw [hp.whole, List.reverse_reverse]
  have hbreak := hp.inLine
  have hlast := hp.blankLines
  rw [hline] at hbreak
  unfold chompingOf
  cases hr : s.reverse with
  | nil => exact absurd (List.reverse_eq_nil_iff.mp hr) hs
  | cons b r =>
    rw [hr] at hbreak hlast
    have hb : isBreak b = true := by simpa using hbreak
    cases r with
    | nil => simpa [hb, Progress.text] using hwhole
    | cons d v =>
      cases hd : isBreak d with
      | true => simpa [hb, hd, Progress.text] using hwhole
      | false =>
        rw [hlast b d v rfl hd] at hwhole
        simpa [hb, hd, Progress.text] using hwhole

/-- Within a line, the chomping leaves out a line end. -/
theorem Progress.Holds.text_endLine (hp : p.Holds s.reverse) (hline : p.inLine = true) :
    ({ p with inLine := false, lineEnd := ['\n'] } : Progress).text (chompingOf s) = s := by
  have hbreak := hp.inLine
  obtain ⟨hblank, hend⟩ := hp.pending hline
  have hread : p.read = s.reverse := by
    rw [← hp.whole, hblank, hend]
    rfl
  rw [hline] at hbreak
  have hstrip : chompingOf s = .strip := by
    unfold chompingOf
    cases hr : s.reverse with
    | nil => rfl
    | cons b r =>
      rw [hr] at hbreak
      have hb : isBreak b = false := by simpa using hbreak
      cases r <;> simp [hb]
  rw [hstrip, Progress.text, hread, List.reverse_reverse]

/-- The block ends in front of a line that is indented less. -/
theorem readLines_tail (hline : p.inLine = false) (hrest : c.rest = t)
    (ht : IsVisible (unindented t)) (hcolumn : c.column + (indentation t).length < indent) :
    readLines h indent t p c =
      some (String.ofList (p.text h.chomping), c.across (indentation t)) := by
  rw [← indentation_append_unindented t] at hrest
  have hreplicate := hrest
  rw [indentation_eq_replicate t] at hreplicate
  have hread := readLines_replicate (h := h) hline hreplicate (Nat.le_of_lt hcolumn)
  rw [← indentation_eq_replicate t, indentation_append_unindented] at hread
  rw [hread]
  have hover := Cursor.rest_across hrest
  cases hu : unindented t with
  | nil =>
    rw [hu] at hover
    rw [readLines, Cursor.with_rest_eq hover]
  | cons x u =>
    rw [hu] at ht hrest hover
    obtain ⟨hblank, hbreak, -⟩ := ht x rfl
    simp only [isBlank, Bool.or_eq_false_iff] at hblank
    have hat : (c.across (indentation t)).column ≠ indent := by
      rw [Cursor.across_of_isBreak_eq_false hrest (isBreak_indentation t)]
      exact Nat.ne_of_lt hcolumn
    rw [readLines]
    simp [hline, hblank, hbreak, hat]

/-- The line end that a block adds to a text. -/
def lineEndOf (s : List Char) : List Char := if s.getLast?.any isBreak then [] else ['\n']

/-- The lines of a text are read as the text, and the place is in the line behind them. -/
theorem readLines_lines (hstyle : h.style = .literal) (hchomping : h.chomping = chompingOf s)
    (hs : s ≠ []) (hstart : c.IsAtStart) (ht : IsVisible (unindented t))
    (hindent : (indentation t).length < indent)
    (hrest : c.rest = linesFrom indent true s ++ (lineEndOf s ++ t)) :
    readLines h indent (linesFrom indent true s ++ (lineEndOf s ++ t)) {} c = some (String.ofList s,
      .lineStart (c.across (linesFrom indent true s ++ lineEndOf s)).line t) := by
  obtain ⟨p, hp, hat, hread⟩ :=
    readLines_linesFrom hstyle Progress.holds_nil (fun _ => hstart) hrest
  have hrest' := Cursor.rest_across hrest
  rw [List.append_nil] at hp
  refine hread.trans ?_
  have hbreak : p.inLine = !s.getLast?.any isBreak := by
    rw [hp.inLine, List.head?_reverse]
    obtain ⟨x, hx⟩ := Option.ne_none_iff_exists'.mp (mt List.getLast?_eq_none_iff.mp hs)
    rw [hx]
    rfl
  have hend : ∀ p' c', p'.inLine = false → p'.text (chompingOf s) = s → c'.IsAtStart → c'.rest = t →
      readLines h indent t p' c' = some (String.ofList s, .lineStart c'.line t) := by
    intro p' c' hline htext hstart' hrest'
    have hlt : c'.column + (indentation t).length < indent := by rwa [hstart'.1, Nat.zero_add]
    rw [readLines_tail hline hrest' ht hlt, hchomping, htext,
      Cursor.across_indentation hstart' hrest']
  cases hline : p.inLine with
  | true =>
    have hnone : lineEndOf s = ['\n'] := if_neg (by simpa [hline] using hbreak)
    rw [hnone] at hrest' ⊢
    have hfeed : isBreak '\n' = true := rfl
    rw [Cursor.across_append]
    exact (readLines_endLine hline hfeed hrest').trans
      (hend _ _ rfl (hp.text_endLine hline) (Cursor.isAtStart_step hfeed)
        (Cursor.rest_across (s := ['\n']) hrest'))
  | false =>
    have hnil : lineEndOf s = [] := if_pos (by simpa [hline] using hbreak)
    rw [hnil] at hrest' ⊢
    rw [List.append_nil]
    exact hend _ _ hline (hp.text_eq hline hs) (hat hline) hrest'

/-! ## Literal blocks -/

/-- Without a digit in the header, the first line shows the indentation. -/
theorem widestIndent?_linesFrom (hs : s ≠ []) (hinc : incrementMark s = [])
    (htab : ∀ x ∈ s, x ≠ '\t') :
    widestIndent? 0 0 (linesFrom indent true s ++ u) = some indent := by
  cases s with
  | nil => exact absurd rfl hs
  | cons x s =>
    have hx : (x == ' ' || isBreak x) = false := by
      rw [incrementMark] at hinc
      split at hinc
      · cases hinc
      · next h => simpa using h
    simp only [Bool.or_eq_false_iff] at hx
    rw [linesFrom_char hx.2, if_pos rfl, List.append_assoc, List.cons_append,
      widestIndent?_replicate hx.1 hx.2 (htab x List.mem_cons_self), Nat.zero_add]

/-- With a digit or from its first line, a block is indented two columns behind its parent. -/
theorem read?_eq_readLines {k : Nat} {d : Cursor} (hheader : header? c = some (h, d))
    (hrest : d.rest = '\n' :: u)
    (hcolumn : h.increment = some 2 ∨ h.increment = none ∧ widestIndent? 0 0 u = some (k + 2)) :
    read? (k + 1) c = (readLines h (k + 2) u {} (d.across ['\n'])).map (h.style, ·) := by
  have hnext : d.nextLine u = d.across ['\n'] := Cursor.nextLine_eq_step hrest rfl
  rw [read?, hheader]
  simp only [Option.bind_eq_bind, Option.bind_some, hrest, List.drop_succ_cons, List.drop_zero,
    hnext]
  rcases hcolumn with hinc | ⟨hinc, hwidest⟩
  · rw [hinc]
    rfl
  · have hmax : max (k + 2) (max (k + 1) 1) = k + 2 := by omega
    rw [hinc, hwidest, Option.map_some, Option.bind_some, hmax]

/-- **A literal block is read back**, two columns behind its parent in column `k`, and the place is
in the line behind it. -/
theorem read?_literal {k : Nat} (hs : s ≠ []) (htab : ∀ x ∈ s, x ≠ '\t')
    (hrest : c.rest = literal (k + 2) s ++ t) (ht : IsVisible (unindented t))
    (hindent : (indentation t).length ≤ k) :
    read? (k + 1) c = some (.literal, String.ofList s,
      .lineStart (c.across (literal (k + 2) s)).line t) := by
  have hinc : incrementMark s = [] ∨ incrementMark s = ['2'] := by
    unfold incrementMark
    split
    · exact Or.inl rfl
    · split
      · exact Or.inr rfl
      · exact Or.inl rfl
  have hliteral : literal (k + 2) s = ('|' :: incrementMark s ++ (chompingOf s).mark) ++
      (['\n'] ++ (linesFrom (k + 2) true s ++ lineEndOf s)) := by
    simp [literal, lineEndOf]
  rw [hliteral] at hrest ⊢
  have hmarks : c.rest = '|' :: incrementMark s ++ (chompingOf s).mark ++
      '\n' :: (linesFrom (k + 2) true s ++ (lineEndOf s ++ t)) := by
    rw [hrest]
    simp
  have hheader := header?_marks hinc hmarks
  have hfeed := Cursor.rest_across hmarks
  have hlines := Cursor.rest_across (s := ['\n']) hfeed
  have hat : ((c.across ('|' :: incrementMark s ++ (chompingOf s).mark)).across ['\n']).IsAtStart :=
    Cursor.isAtStart_step (x := '\n') rfl
  rw [read?_eq_readLines hheader hfeed,
    readLines_lines rfl rfl hs hat ht (by omega) hlines]
  · simp only [Cursor.across_append]
    rfl
  · rcases hinc with hinc | hinc <;> rw [hinc]
    · exact Or.inr ⟨rfl, widestIndent?_linesFrom hs hinc htab⟩
    · exact Or.inl rfl

theorem mem_linesFrom {y : Char} {newLine : Bool} (hy : y ∈ linesFrom indent newLine s) :
    y ∈ s ∨ y = ' ' := by
  induction s generalizing newLine with
  | nil => cases hy
  | cons x s ih =>
    have hrest : ∀ {newLine}, y ∈ x :: linesFrom indent newLine s → y ∈ x :: s ∨ y = ' ' := by
      intro newLine hy
      rcases List.mem_cons.mp hy with rfl | hy
      · exact Or.inl List.mem_cons_self
      · exact (ih hy).imp_left (List.mem_cons_of_mem x)
    cases hx : isBreak x with
    | true =>
      rw [linesFrom_break hx] at hy
      exact hrest hy
    | false =>
      rw [linesFrom_char hx, List.mem_append] at hy
      rcases hy with hy | hy
      · split at hy
        · exact Or.inr (List.eq_of_mem_replicate hy)
        · cases hy
      · exact hrest hy

/-- A literal block puts only printable characters to a text. -/
theorem mem_literal {y : Char} (hy : y ∈ literal indent s) : y ∈ s ∨ isPrintable y = true := by
  simp only [literal, List.cons_append, List.append_assoc, List.mem_cons, List.mem_append] at hy
  rcases hy with rfl | hy | hy | rfl | hy | hy
  · exact Or.inr rfl
  · unfold incrementMark at hy
    split at hy
    · cases hy
    · split at hy
      · exact Or.inr (by rw [List.mem_singleton.mp hy]; rfl)
      · cases hy
  · cases hmark : chompingOf s <;> rw [hmark] at hy
    · exact Or.inr (by rw [List.mem_singleton.mp hy]; rfl)
    · cases hy
    · exact Or.inr (by rw [List.mem_singleton.mp hy]; rfl)
  · exact Or.inr rfl
  · exact (mem_linesFrom hy).imp_right fun h => by rw [h]; rfl
  · split at hy
    · cases hy
    · exact Or.inr (by rw [List.mem_singleton.mp hy]; rfl)

end PackQuery.Yaml.Block
