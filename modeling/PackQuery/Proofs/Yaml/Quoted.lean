import Mathlib.Tactic.IntervalCases
import PackQuery.Proofs.Text.Numeral
import PackQuery.Proofs.Yaml.Plain
import PackQuery.Yaml.Scalar.Quoted

/-!
# Reading quoted scalars

Texts between quotes are read as they were written.

**Single quotes.** Behind each character stands the gap that it leaves (`Leaves`): a space is in it,
and so is a line end that is no line feed. Since no space stands at a line end, the gap means what
has been read (`readSingle_singleFrom`). The indentation behind a line end does not count.

**Double quotes.** Every character that would not be read as it is has an escape, and an escape is
read as its character (`readDouble_escape`). So no line ends occur, and every text can be written
(`read?_double`).

**Length.** Neither way takes more than four times the bytes of the text, and two for the quotes.
-/

namespace PackQuery.Yaml.Quoted

open Style (isSpace hasPair)

variable {s t u read : List Char} {x p : Char} {c : Cursor} {gap : Gap} {indent : Nat}

/-! ## Single quotes -/

theorem readSingle_quote (hrest : c.rest = '\'' :: '\'' :: u) :
    readSingle ('\'' :: '\'' :: u) gap read c =
      readSingle u .empty ('\'' :: (gap.reversed ++ read)) (c.across ['\'', '\'']) := by
  rw [readSingle, ← Cursor.past_eq_across (s := ['\'', '\'']) hrest (by simp [isBreak])]
  rfl

theorem readSingle_end (hrest : c.rest = '\'' :: t) (ht : t.head? ≠ some '\'') :
    readSingle ('\'' :: t) gap read c =
      some (String.ofList (gap.reversed ++ read).reverse, c.across ['\'']) := by
  rw [readSingle, ← Cursor.past_one_eq_across hrest rfl]
  · rfl
  · rintro s rfl
    exact ht rfl

theorem readSingle_char (hrest : c.rest = x :: u) (hx : x ≠ '\'') (hbreak : isBreak x = false)
    (hblank : isBlank x = false) (hmark : gap.isBroken = true → c.column ≠ 0) :
    readSingle (x :: u) gap read c =
      readSingle u .empty (x :: (gap.reversed ++ read)) (c.across [x]) := by
  have hboundary : (gap.isBroken && (c.atStart || c.atStop)) = false := by
    cases hgap : gap.isBroken with
    | false => rfl
    | true =>
      obtain ⟨hstart, hstop⟩ := Cursor.atStart_atStop_eq_false (Or.inl (hmark hgap))
      simp [hstart, hstop]
  rw [readSingle, hboundary, hbreak, hblank, Cursor.nextColumn_eq_step hrest hbreak]
  · rfl
  all_goals simp [hx]

theorem readSingle_space (hrest : c.rest = ' ' :: u) :
    readSingle (' ' :: u) gap read c = readSingle u (gap.addBlank ' ') read (c.across [' ']) := by
  obtain ⟨hstart, hstop⟩ := Cursor.atStart_atStop_eq_false (c := c) (Or.inr (by simp [hrest]))
  rw [readSingle, hstart, hstop, Cursor.nextColumn_eq_step hrest rfl]
  · simp [isBreak, isBlank]; rfl
  all_goals simp

theorem readSingle_break (hrest : c.rest = x :: u) (hx : isBreak x = true) :
    readSingle (x :: u) gap read c = readSingle u (gap.addBreak x) read (c.across [x]) := by
  have hne : ∀ y, isBreak y = false → x ≠ y := by
    rintro y hy rfl
    rw [hx] at hy
    cases hy
  obtain ⟨hstart, hstop⟩ := Cursor.atStart_atStop_eq_false (c := c)
    (Or.inr (by simpa [hrest] using ⟨hne '-' rfl, hne '.' rfl⟩))
  rw [readSingle, hstart, hstop, hx, Cursor.nextLine_eq_step hrest hx]
  · simp; rfl
  all_goals simp [hne '\'' rfl]

/-- The blanks in front of a line do not count. -/
theorem readSingle_blanks (hgap : gap.isBroken = true) (k : Nat)
    (hrest : c.rest = List.replicate k ' ' ++ u) :
    readSingle (List.replicate k ' ' ++ u) gap read c =
      readSingle u gap read (c.across (List.replicate k ' ')) := by
  induction k generalizing c with
  | zero => rfl
  | succ k ih =>
    have hadd : gap.addBlank ' ' = gap := by
      cases gap with
      | blanks read => cases hgap
      | lines first more => rfl
    have hcons : c.rest = ' ' :: (List.replicate k ' ' ++ u) := hrest
    rw [List.replicate_succ, List.cons_append, readSingle_space hcons, hadd,
      ih (Cursor.rest_across (s := [' ']) hcons)]
    rfl

/-- Whether a gap is what a character leaves: nothing behind a line end or a visible character,
and no blanks in front of line ends. -/
def Leaves (p : Char) : Gap → Prop
  | .blanks blanks => isBreak p = false ∧ (blanks ≠ [] → isSpace p = true)
  | .lines first _ => isBreak p = true ∧ ∃ b, first = some b ∧ b ≠ '\n'

theorem leaves_empty (h : isBreak p = false) : Leaves p .empty := ⟨h, fun hne => absurd rfl hne⟩

theorem Leaves.addBreak (h : Leaves p gap) (hpair : (isSpace p && isBreak x) = false)
    (hx : isBreak x = true) (hfeed : x ≠ '\n') :
    Leaves x (gap.addBreak x) ∧ (gap.addBreak x).reversed = x :: gap.reversed := by
  cases gap with
  | blanks blanks =>
    have hnil : blanks = [] := by
      by_contra hne
      rw [h.2 hne, hx] at hpair
      cases hpair
    subst hnil
    refine ⟨⟨hx, x, rfl, hfeed⟩, ?_⟩
    simp [Gap.addBreak, Gap.reversed, hfeed]
  | lines first more =>
    obtain ⟨-, b, rfl, hb⟩ := h
    refine ⟨⟨hx, b, rfl, hb⟩, ?_⟩
    simp [Gap.addBreak, Gap.reversed, hb]

theorem Leaves.addSpace (h : Leaves p gap) (hpair : (isBreak p && isSpace ' ') = false) :
    Leaves ' ' (gap.addBlank ' ') ∧ (gap.addBlank ' ').reversed = ' ' :: gap.reversed ∧
      gap.isBroken = false := by
  cases gap with
  | blanks blanks => exact ⟨⟨rfl, fun _ => rfl⟩, rfl, rfl⟩
  | lines first more =>
    rw [h.1] at hpair
    cases hpair

/-- What stands in front of a character that is no line end. -/
def margin (indent : Nat) (newLine : Bool) : List Char :=
  if newLine then List.replicate indent ' ' else []

/-- A character between single quotes. -/
def doubled (x : Char) : List Char := if x == '\'' then ['\'', '\''] else [x]

theorem singleFrom_break (hx : isBreak x = true) (newLine : Bool) :
    singleFrom indent newLine (x :: s) = x :: singleFrom indent true s := by
  rw [singleFrom, if_pos hx]

theorem singleFrom_char (hx : isBreak x = false) (newLine : Bool) :
    singleFrom indent newLine (x :: s) =
      margin indent newLine ++ (doubled x ++ singleFrom indent false s) := by
  rw [singleFrom, if_neg (by simp [hx]), List.append_assoc]
  rfl

/-- The blanks in front of a line do not count, but no mark of a document stands behind them. -/
theorem readSingle_margin (read : List Char) (hindent : 0 < indent)
    (hrest : c.rest = margin indent gap.isBroken ++ u) :
    readSingle (margin indent gap.isBroken ++ u) gap read c =
        readSingle u gap read (c.across (margin indent gap.isBroken)) ∧
      (c.across (margin indent gap.isBroken)).rest = u ∧
      (gap.isBroken = true → (c.across (margin indent gap.isBroken)).column ≠ 0) := by
  have hover := Cursor.rest_across hrest
  cases hgap : gap.isBroken with
  | false => exact ⟨rfl, by rwa [hgap] at hover, nofun⟩
  | true =>
    rw [hgap] at hrest hover
    refine ⟨readSingle_blanks hgap indent hrest, hover, fun _ => ?_⟩
    rw [Cursor.across_of_isBreak_eq_false hrest (isBreak_replicate indent)]
    show c.column + (List.replicate indent ' ').length ≠ 0
    rw [List.length_replicate]
    omega

/-- A character of a line is read behind the gap in front of it: a space goes into the gap, any
other character leaves an empty one. -/
theorem exists_readSingle_doubled (read : List Char) (hx : isPrintable x = true)
    (hbreak : isBreak x = false) (hgap : Leaves p gap) (hpair : (isBreak p && isSpace x) = false) :
    ∃ gap' read', Leaves x gap' ∧ gap'.isBroken = false ∧
      gap'.reversed ++ read' = x :: (gap.reversed ++ read) ∧
      ∀ u c, c.rest = doubled x ++ u → (gap.isBroken = true → c.column ≠ 0) →
        readSingle (doubled x ++ u) gap read c =
          readSingle u gap' read' (c.across (doubled x)) := by
  by_cases hspace : x = ' '
  · subst hspace
    obtain ⟨hleaves, hreversed, hbroken⟩ := hgap.addSpace hpair
    refine ⟨gap.addBlank ' ', read, hleaves, ?_, ?_, fun u c hrest _ => readSingle_space hrest⟩
    · cases gap <;> first | rfl | cases hbroken
    · rw [hreversed, List.cons_append]
  · refine ⟨.empty, x :: (gap.reversed ++ read), leaves_empty hbreak, rfl, rfl,
      fun u c hrest hcolumn => ?_⟩
    by_cases hquote : x = '\''
    · subst hquote
      exact readSingle_quote hrest
    · have hdoubled : doubled x = [x] := if_neg (by simpa using hquote)
      have hblank : isBlank x = false := by
        rw [isBlank_eq_isSpace hx]
        simpa [isSpace] using hspace
      rw [hdoubled] at hrest ⊢
      exact readSingle_char hrest hquote hbreak hblank hcolumn

/-- The rest of a text is read behind a gap that the character in front of it leaves. -/
theorem readSingle_singleFrom (read : List Char) (hindent : 0 < indent) (ht : t.head? ≠ some '\'')
    (hprintable : ∀ x ∈ s, isPrintable x = true) (hfeed : '\n' ∉ s)
    (hout : hasPair isSpace isBreak (p :: s) = false)
    (hin : hasPair isBreak isSpace (p :: s) = false) (hgap : Leaves p gap)
    (hrest : c.rest = singleFrom indent gap.isBroken s ++ '\'' :: t) :
    readSingle (singleFrom indent gap.isBroken s ++ '\'' :: t) gap read c =
      some (String.ofList ((gap.reversed ++ read).reverse ++ s),
        c.across (singleFrom indent gap.isBroken s ++ ['\''])) := by
  induction s generalizing p gap read c with
  | nil =>
    obtain ⟨hread, hover, -⟩ := readSingle_margin read hindent hrest
    rw [List.append_nil, Cursor.across_append]
    exact hread.trans (readSingle_end hover ht)
  | cons x s ih =>
    obtain ⟨hx, hprintable⟩ := List.forall_mem_cons.mp hprintable
    rw [List.mem_cons, not_or] at hfeed
    simp only [hasPair, Bool.or_eq_false_iff] at hout hin
    by_cases hbreak : isBreak x = true
    · obtain ⟨hleaves, hreversed⟩ := hgap.addBreak hout.1 hbreak (Ne.symm hfeed.1)
      have hbroken : (gap.addBreak x).isBroken = true := by cases gap <;> rfl
      rw [singleFrom_break hbreak, ← hbroken, List.cons_append] at hrest ⊢
      rw [readSingle_break hrest hbreak,
        ih _ hprintable hfeed.2 hout.2 hin.2 hleaves (Cursor.rest_across (s := [x]) hrest),
        hreversed]
      simp [Cursor.across_cons]
    · rw [Bool.not_eq_true] at hbreak
      obtain ⟨gap', read', hleaves, hbroken, hreversed, hdoubled⟩ :=
        exists_readSingle_doubled read hx hbreak hgap hin.1
      rw [singleFrom_char hbreak, List.append_assoc, List.append_assoc] at hrest ⊢
      obtain ⟨hmargin, hover, hcolumn⟩ := readSingle_margin read hindent hrest
      rw [hmargin, hdoubled _ _ hover hcolumn]
      rw [← hbroken] at hover ⊢
      rw [ih _ hprintable hfeed.2 hout.2 hin.2 hleaves (Cursor.rest_across hover), hreversed]
      simp [Cursor.across_append]

theorem hasPair_cons {first second : Char → Bool} (h : first p = false) :
    hasPair first second (p :: s) = hasPair first second s := by
  cases s with
  | nil => rfl
  | cons x s => rw [hasPair, h, Bool.false_and, Bool.false_or]

/-- **A text that can stand between single quotes is read back from there**, where no further quote
follows. -/
theorem read?_single (hs : Style.canBeSingleQuoted s = true) (hfeed : '\n' ∉ s)
    (hindent : 0 < indent) (hrest : c.rest = single indent s ++ t) (ht : t.head? ≠ some '\'') :
    read? c = some (.singleQuoted, String.ofList s, c.across (single indent s)) := by
  simp only [Style.canBeSingleQuoted, Bool.not_eq_true', Bool.or_eq_false_iff] at hs
  obtain ⟨hin, hescape⟩ := hs
  have hprintable := isPrintable_of_needsEscape hescape
  simp only [Style.needsEscape, Bool.or_eq_false_iff] at hescape
  have hcons : c.rest = '\'' :: (singleFrom indent false s ++ '\'' :: t) := by
    rw [hrest, single, List.append_assoc]
    rfl
  have hleaves : Leaves '\'' .empty := leaves_empty rfl
  have hread := readSingle_singleFrom [] hindent ht hprintable hfeed
    ((hasPair_cons rfl).trans hescape.1) ((hasPair_cons rfl).trans hin) hleaves
    (Cursor.rest_across (s := ['\'']) hcons)
  have hpast : c.past 1 = c.across ['\''] := Cursor.past_one_eq_across hcons rfl
  rw [read?, hcons]
  show (readSingle _ _ _ (c.past 1)).map _ = _
  rw [hpast]
  refine (congrArg (Option.map _) hread).trans ?_
  simp [single, Gap.empty, Gap.reversed, Gap.isBroken, Cursor.across_cons]

/-! ## Escapes -/

theorem utf8Size_eq_ite (x : Char) : x.utf8Size =
    if x.toNat < 0x80 then 1 else if x.toNat < 0x800 then 2 else if x.toNat < 0x10000 then 3
    else 4 := by
  have hle : ∀ n : UInt32, x.val ≤ n ↔ x.toNat ≤ n.toNat := fun n => UInt32.le_iff_toNat_le
  simp only [Char.utf8Size, hle]
  simp only [UInt32.toNat_ofNatLT, Nat.lt_succ_iff]

theorem toNat_lt (x : Char) : x.toNat < 0x110000 := by
  rcases x.valid with h | h
  · exact Nat.lt_trans h (by decide)
  · exact h.2

/-- The marks of escapes in digits, with the counts of the digits. -/
def digitMarks : List (Char × Nat) := [('x', 2), ('u', 4), ('U', 8)]

/-- How a character is escaped: by a letter, or by enough hexadecimal digits behind a mark. The
escape takes at most four times the bytes of the character. -/
theorem escape_cases (x : Char) :
    (∃ letter, (x, letter) ∈ letters ∧ escape x = ['\\', letter]) ∨
      ∃ mark count, (mark, count) ∈ digitMarks ∧
        escape x = '\\' :: mark :: hexDigits count x.toNat ∧ x.toNat < 16 ^ count ∧
        count + 2 ≤ 4 * x.utf8Size := by
  unfold escape
  split
  · next y letter hfind =>
    obtain rfl : y = x := by simpa using List.find?_some hfind
    exact Or.inl ⟨letter, List.mem_of_find?_eq_some hfind, rfl⟩
  · have hsize := utf8Size_eq_ite x
    have hlimit := toNat_lt x
    refine Or.inr ?_
    split
    · next hlt => exact ⟨'x', 2, by simp [digitMarks], rfl, hlt, by grind⟩
    · next hle =>
      split
      · next hlt => exact ⟨'u', 4, by simp [digitMarks], rfl, hlt, by grind⟩
      · exact ⟨'U', 8, by simp [digitMarks], rfl, by omega, by grind⟩

/-- What the letters of escapes are: letters of their characters and no marks of digits. -/
theorem letter_spec : ∀ q ∈ letters, ofLetter? q.2 = some q.1 ∧ isBreak q.2 = false ∧
    q.2 ≠ 'x' ∧ q.2 ≠ 'u' ∧ q.2 ≠ 'U' ∧ q.2.utf8Size = 1 ∧ isPrintable q.2 = true := by
  decide

theorem digitMark_spec : ∀ q ∈ digitMarks, 0 < q.2 ∧ isBreak q.1 = false ∧
    isPrintable q.1 = true ∧ q.1.utf8Size = 1 := by
  decide

theorem isDigitOf_hexDigit {n : Nat} (h : n < 16) : Numeral.IsDigitOf 16 (hexDigit n) n := by
  refine ⟨h, ?_⟩
  interval_cases n <;> decide

theorem length_hexDigits (count n : Nat) : (hexDigits count n).length = count := by
  induction count generalizing n with
  | zero => rfl
  | succ count ih => rw [hexDigits, List.length_append, ih, List.length_singleton]

theorem denotes_hexDigits {count n : Nat} (h : n < 16 ^ count) :
    Numeral.Denotes 16 (hexDigits count n) n := by
  induction count generalizing n with
  | zero =>
    obtain rfl : n = 0 := by simpa using h
    exact .nil
  | succ count ih =>
    have hlast : Numeral.Denotes 16 [hexDigit (n % 16)] (n % 16) := by
      simpa using Numeral.Denotes.cons (isDigitOf_hexDigit (Nat.mod_lt n (by decide))) .nil
    have hdigits := (ih (n := n / 16) (by omega)).append hlast
    rwa [List.length_singleton, pow_one, Nat.div_add_mod' n 16] at hdigits

/-- A character has the code point that its digits denote. -/
theorem ofDigits?_hexDigits {count : Nat} (hcount : 0 < count) (h : x.toNat < 16 ^ count) :
    ofDigits? (hexDigits count x.toNat) = some x := by
  have hne : hexDigits count x.toNat ≠ [] := by
    intro hnil
    rw [← length_hexDigits count x.toNat, hnil] at hcount
    exact Nat.lt_irrefl 0 hcount
  have hdigits : Numeral.natural? 16 (hexDigits count x.toNat) = some x.toNat :=
    (Numeral.natural?_eq_some_iff (by decide)).mpr ⟨hne, denotes_hexDigits h⟩
  have hvalid : x.toNat.isValidChar := x.valid
  rw [ofDigits?, hdigits]
  exact (dif_pos hvalid).trans (congrArg some (Char.ext (UInt32.toNat_inj.mp rfl)))

theorem mem_hexDigits {y : Char} {count n : Nat} (h : y ∈ hexDigits count n) :
    ∃ v < 16, y = hexDigit v := by
  induction count generalizing n with
  | zero => cases h
  | succ count ih =>
    rcases List.mem_append.mp h with h | h
    · exact ih h
    · exact ⟨n % 16, Nat.mod_lt n (by decide), List.mem_singleton.mp h⟩

/-- Escapes are made of visible ASCII characters. -/
theorem mem_escape {y : Char} (hy : y ∈ escape x) :
    isBreak y = false ∧ isPrintable y = true ∧ y.utf8Size = 1 := by
  obtain ⟨letter, hletter, hescape⟩ | ⟨mark, count, hmark, hescape, -, -⟩ := escape_cases x <;>
    rw [hescape] at hy
  · obtain ⟨-, hbreak, -, -, -, hsize, hprintable⟩ := letter_spec _ hletter
    rw [List.mem_cons, List.mem_singleton] at hy
    rcases hy with rfl | rfl
    · decide
    · exact ⟨hbreak, hprintable, hsize⟩
  · rw [List.mem_cons, List.mem_cons] at hy
    rcases hy with rfl | rfl | hy
    · decide
    · exact (digitMark_spec _ hmark).2
    · obtain ⟨v, hv, rfl⟩ := mem_hexDigits hy
      interval_cases v <;> decide

/-- A mark is read with as many digits as it takes. -/
theorem readDouble_digits {mark : Char} {digits : List Char}
    (hmark : (mark, digits.length) ∈ digitMarks) (hof : ofDigits? digits = some x) :
    readDouble ('\\' :: mark :: (digits ++ u)) gap read c =
      readDouble u .empty (x :: (gap.reversed ++ read)) (c.past (digits.length + 2)) := by
  simp only [digitMarks, List.mem_cons, List.not_mem_nil, or_false, Prod.mk.injEq] at hmark
  rcases hmark with ⟨rfl, hcount⟩ | ⟨rfl, hcount⟩ | ⟨rfl, hcount⟩
  · match digits, hcount with
    | [_, _], _ =>
      simp only [List.cons_append, List.nil_append]
      rw [readDouble, hof]
      rfl
  · match digits, hcount with
    | [_, _, _, _], _ =>
      simp only [List.cons_append, List.nil_append]
      rw [readDouble, hof]
      rfl
  · match digits, hcount with
    | [_, _, _, _, _, _, _, _], _ =>
      simp only [List.cons_append, List.nil_append]
      rw [readDouble, hof]
      rfl

theorem readDouble_escape (hrest : c.rest = escape x ++ u) :
    readDouble (escape x ++ u) gap read c =
      readDouble u .empty (x :: (gap.reversed ++ read)) (c.across (escape x)) := by
  have hpast : c.past (escape x).length = c.across (escape x) :=
    Cursor.past_eq_across hrest fun y hy => (mem_escape hy).1
  obtain ⟨letter, hletter, hescape⟩ | ⟨mark, count, hmark, hescape, hlt, -⟩ := escape_cases x <;>
    rw [← hpast, hescape]
  · obtain ⟨hof, hbreak, hx, hu, hU, -⟩ := letter_spec _ hletter
    show readDouble ('\\' :: letter :: u) gap read c = _
    rw [readDouble, hbreak, hof]
    · rfl
    all_goals simp_all
  · have hof := ofDigits?_hexDigits (digitMark_spec _ hmark).1 hlt
    rw [← length_hexDigits count x.toNat] at hmark
    exact readDouble_digits hmark hof

/-! ## Double quotes -/

/-- A character between double quotes. -/
def escaped (x : Char) : List Char := if isEscaped x then escape x else [x]

/-- A character that needs no escape is read as it is, and a space goes into the gap. -/
theorem exists_readDouble_escaped (blanks read : List Char) (x : Char) :
    ∃ blanks' read', blanks' ++ read' = x :: (blanks ++ read) ∧
      ∀ u c, c.rest = escaped x ++ u →
        readDouble (escaped x ++ u) (.blanks blanks) read c =
          readDouble u (.blanks blanks') read' (c.across (escaped x)) := by
  by_cases hx : isEscaped x = true
  · rw [show escaped x = escape x from if_pos hx]
    exact ⟨[], x :: (blanks ++ read), rfl, fun u c hrest => readDouble_escape hrest⟩
  · rw [show escaped x = [x] from if_neg hx]
    simp only [isEscaped, Bool.or_eq_true, not_or, Bool.not_eq_true, Bool.not_eq_false',
      beq_eq_false_iff_ne] at hx
    obtain ⟨⟨⟨hprintable, hbreak⟩, hquote⟩, hslash⟩ := hx
    have hread : ∀ u c, c.rest = x :: u → readDouble (x :: u) (.blanks blanks) read c =
        if isSpace x then readDouble u (.blanks (x :: blanks)) read (c.across [x])
        else readDouble u .empty (x :: (blanks ++ read)) (c.across [x]) := by
      intro u c hrest
      rw [readDouble, hbreak, isBlank_eq_isSpace (by simpa using hprintable),
        Cursor.nextColumn_eq_step hrest hbreak]
      · rfl
      all_goals simp_all
    by_cases hspace : isSpace x = true
    · refine ⟨x :: blanks, read, rfl, fun u c hrest => ?_⟩
      rw [List.singleton_append, hread u c hrest, if_pos hspace]
    · refine ⟨[], x :: (blanks ++ read), rfl, fun u c hrest => ?_⟩
      rw [List.singleton_append, hread u c hrest, if_neg hspace]
      rfl

theorem readDouble_flatMap (blanks read : List Char)
    (hrest : c.rest = s.flatMap escaped ++ '"' :: t) :
    readDouble (s.flatMap escaped ++ '"' :: t) (.blanks blanks) read c =
      some (String.ofList ((blanks ++ read).reverse ++ s),
        c.across (s.flatMap escaped ++ ['"'])) := by
  induction s generalizing blanks read c with
  | nil =>
    have hcons : c.rest = '"' :: t := hrest
    have hpast : c.past 1 = c.across ['"'] := Cursor.past_one_eq_across hcons rfl
    rw [List.flatMap_nil, List.nil_append, readDouble, hpast, finish, List.append_nil,
      List.nil_append, Gap.reversed]
  | cons x s ih =>
    obtain ⟨blanks', read', hreversed, hescaped⟩ := exists_readDouble_escaped blanks read x
    rw [List.flatMap_cons, List.append_assoc] at hrest ⊢
    rw [hescaped _ _ hrest, ih _ _ (Cursor.rest_across hrest), hreversed]
    simp [Cursor.across_append]

/-- **Every text is read back from between double quotes.** -/
theorem read?_double (hrest : c.rest = double s ++ t) :
    read? c = some (.doubleQuoted, String.ofList s, c.across (double s)) := by
  have hcons : c.rest = '"' :: (s.flatMap escaped ++ '"' :: t) := by
    rw [hrest, double, List.append_assoc]
    rfl
  have hread := readDouble_flatMap [] [] (Cursor.rest_across (s := ['"']) hcons)
  have hpast : c.past 1 = c.across ['"'] := Cursor.past_one_eq_across hcons rfl
  rw [read?, hcons]
  show (readDouble _ _ _ (c.past 1)).map _ = _
  rw [hpast]
  refine (congrArg (Option.map _) hread).trans ?_
  rfl

/-! ## What stands between quotes -/

theorem mem_singleFrom {y : Char} {newLine : Bool} (hy : y ∈ singleFrom indent newLine s) :
    y ∈ s ∨ y = '\'' ∨ y = ' ' := by
  induction s generalizing newLine with
  | nil =>
    rw [singleFrom] at hy
    split at hy
    · exact Or.inr (Or.inr (List.eq_of_mem_replicate hy))
    · cases hy
  | cons x s ih =>
    have hrest : ∀ {newLine}, y ∈ singleFrom indent newLine s → y ∈ x :: s ∨ y = '\'' ∨ y = ' ' :=
      fun h => (ih h).imp_left (List.mem_cons_of_mem x)
    cases hx : isBreak x with
    | true =>
      rw [singleFrom_break hx] at hy
      rcases List.mem_cons.mp hy with rfl | hy
      · exact Or.inl List.mem_cons_self
      · exact hrest hy
    | false =>
      rw [singleFrom_char hx, List.mem_append, List.mem_append] at hy
      rcases hy with hy | hy | hy
      · rw [margin] at hy
        split at hy
        · exact Or.inr (Or.inr (List.eq_of_mem_replicate hy))
        · cases hy
      · rw [doubled] at hy
        split at hy
        · exact Or.inr (Or.inl (by simpa using hy))
        · exact Or.inl (by simpa using Or.inl hy)
      · exact hrest hy

/-- Single quotes put only quotes and spaces to a text. -/
theorem mem_single {y : Char} (hy : y ∈ single indent s) : y ∈ s ∨ y = '\'' ∨ y = ' ' := by
  rw [single, List.cons_append, List.mem_cons, List.mem_append, List.mem_singleton] at hy
  rcases hy with rfl | hy | rfl
  · exact Or.inr (Or.inl rfl)
  · exact mem_singleFrom hy
  · exact Or.inr (Or.inl rfl)

theorem mem_escaped {y : Char} (hy : y ∈ escaped x) : isBreak y = false ∧ isPrintable y = true := by
  rw [escaped] at hy
  split at hy
  · exact ⟨(mem_escape hy).1, (mem_escape hy).2.1⟩
  · next hx =>
    obtain rfl := List.mem_singleton.mp hy
    simp only [isEscaped, Bool.or_eq_true, not_or, Bool.not_eq_true, Bool.not_eq_false'] at hx
    exact ⟨hx.1.1.2, by simpa using hx.1.1.1⟩

/-- Between double quotes all characters are printable and none is a line end. -/
theorem mem_double {y : Char} (hy : y ∈ double s) : isBreak y = false ∧ isPrintable y = true := by
  rw [double, List.cons_append, List.mem_cons, List.mem_append, List.mem_singleton] at hy
  rcases hy with rfl | hy | rfl
  · decide
  · obtain ⟨x, -, hy⟩ := List.mem_flatMap.mp hy
    exact mem_escaped hy
  · decide

theorem bytes_escaped_le (x : Char) : bytes (escaped x) ≤ 4 * x.utf8Size := by
  have hsize := Char.utf8Size_pos x
  rw [escaped]
  split
  · rw [bytes_eq_length fun y hy => (mem_escape hy).2.2]
    obtain ⟨letter, -, hescape⟩ | ⟨mark, count, -, hescape, -, hle⟩ := escape_cases x <;>
      rw [hescape]
    · show 2 ≤ 4 * x.utf8Size
      omega
    · show (hexDigits count x.toNat).length + 1 + 1 ≤ 4 * x.utf8Size
      rwa [length_hexDigits]
  · show x.utf8Size + 0 ≤ 4 * x.utf8Size
    omega

/-- A text between double quotes takes at most four times its bytes, and two for the quotes. -/
theorem bytes_double_le (s : List Char) : bytes (double s) ≤ 4 * bytes s + 2 := by
  have hflat : bytes (s.flatMap escaped) ≤ 4 * bytes s := by
    induction s with
    | nil => exact Nat.le_refl 0
    | cons x s ih =>
      have hx := bytes_escaped_le x
      rw [List.flatMap_cons, bytes_append, bytes_cons]
      omega
  have hdouble : bytes (double s) = 1 + bytes (s.flatMap escaped) + 1 := by
    show bytes ('"' :: s.flatMap escaped ++ ['"']) = _
    rw [bytes_append, bytes_cons]
    rfl
  omega

/-- The same of single quotes, if the text has no line ends. -/
theorem bytes_single_le (h : ∀ x ∈ s, isBreak x = false) :
    bytes (single indent s) ≤ 4 * bytes s + 2 := by
  have hfrom : bytes (singleFrom indent false s) ≤ 4 * bytes s := by
    induction s with
    | nil => exact Nat.le_refl 0
    | cons x s ih =>
      obtain ⟨hx, hs⟩ := List.forall_mem_cons.mp h
      have hsize := Char.utf8Size_pos x
      have hdoubled : bytes (doubled x) ≤ 2 * x.utf8Size := by
        rw [doubled]
        split
        · exact Nat.mul_le_mul_left 2 hsize
        · show x.utf8Size + 0 ≤ 2 * x.utf8Size
          omega
      have hle := ih hs
      rw [singleFrom_char hx, bytes_append, bytes_append, bytes_cons,
        show bytes (margin indent false) = 0 from rfl]
      omega
  have hsingle : bytes (single indent s) = 1 + bytes (singleFrom indent false s) + 1 := by
    rw [single, bytes_append, bytes_cons]
    rfl
  omega

end PackQuery.Yaml.Quoted
