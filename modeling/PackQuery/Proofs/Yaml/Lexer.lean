import PackQuery.Proofs.Yaml.Printer

/-!
# Reading what stands in a line

What the lexer does with a value that stands behind its mark in a line: a text, a truth value or an
empty table.

**Steps** (`Lexer.Leads`). One state of the lexer leads to another if running from the one is
running from the other, with less fuel for fewer characters. Steps that only skip need none.

**Between tokens.** Only the next token counts of a state (`leads_of_next?`). In a new line the
candidates for keys are gone (`leads_lineStart`), and a table ends in front of a token that stands
further left (`leads_blockEnd`).

**In a line.** What stands in a line is a node (`token?_inline`), which ends at the colon of a key
or at the line end. A literal block is read with its lines, and a pair of braces is an empty table.
-/

namespace PackQuery.Yaml

variable {s t w : List Char} {x : Char} {style : ScalarStyle} {k : Nat}

namespace Lexer

variable {l l' l'' f : Lexer} {c : Cursor} {toks : List Token} {cs : List Nat} {n : Nat}

/-! ## Steps -/

/-- Whether one state leads to another, by steps that take characters away. -/
def Leads (l l' : Lexer) : Prop :=
  ∃ n, n + l'.place.rest.length ≤ l.place.rest.length ∧ ∀ fuel, run (fuel + n) l = run fuel l'

theorem Leads.refl (l : Lexer) : Leads l l := ⟨0, by omega, fun _ => rfl⟩

theorem Leads.trans (h : Leads l l') (h' : Leads l' l'') : Leads l l'' := by
  obtain ⟨n, hlen, hrun⟩ := h
  obtain ⟨n', hlen', hrun'⟩ := h'
  exact ⟨n' + n, by omega, fun fuel => by rw [← Nat.add_assoc, hrun, hrun']⟩

/-- What counts of a state is the next token. -/
theorem leads_of_next? (h : l.next? = l'.next?)
    (hlen : l'.place.rest.length ≤ l.place.rest.length) : Leads l l' := by
  refine ⟨0, by omega, fun fuel => ?_⟩
  cases fuel with
  | zero => rfl
  | succ fuel =>
    show run (fuel + 1) l = run (fuel + 1) l'
    rw [run, run, h]

/-- A token is a step. -/
theorem leads_of_token? (hnext : l.next? = some f) (hrest : f.place.rest = x :: t)
    (hdirective : f.place.column ≠ 0 ∨ x ≠ '%') (hstart : f.place.atStart = false)
    (hstop : f.place.atStop = false) (htoken : f.token? x = some l')
    (hlen : l'.place.rest.length < l.place.rest.length) : Leads l l' := by
  refine ⟨1, by omega, fun fuel => ?_⟩
  have hnone : (f.place.column == 0 && x == '%') = false := by
    rcases hdirective with h | h <;> simp [h]
  rw [run, hnext]
  simp only [Option.bind_eq_bind, Option.bind_some, hrest, hnone, hstart, hstop, htoken]
  rfl

/-! ## Open collections -/

theorem closeFrom_of_lt (h : ∀ j ∈ l.columns.head?, j < k) : l.closeFrom k = l := by
  have hnil : l.columns.takeWhile (k ≤ ·) = [] := by
    cases hcolumns : l.columns with
    | nil => rfl
    | cons j cs =>
      have hlt := h j (by rw [hcolumns]; rfl)
      exact List.takeWhile_cons_of_neg (by simpa using hlt)
  rw [closeFrom]
  split
  · rfl
  · rw [hnil]
    rfl

/-! ## Between tokens -/

/-- Outside flow collections, without a candidate. -/
def behind (c : Cursor) (toks : List Token) (cs : List Nat) (fresh : Bool) : Lexer where
  place := c
  tokens := toks
  columns := cs
  fresh

theorem next?_of_skip {fresh : Bool} (hskip : l.place.skip l.inFlow l.fresh = (c, fresh)) :
    l.next? =
      ({ l with place := c, fresh } : Lexer).keep?.map fun f => f.closeFrom (c.column + 1) := by
  rw [next?, hskip]
  cases hkeep : ({ l with place := c, fresh } : Lexer).keep? <;> simp [hkeep]

theorem next?_eq {fresh : Bool} {candidate : Option Candidate} (houter : l.outer = [])
    (hskip : l.place.skip false l.fresh = (c, fresh))
    (hkeep : Candidate.keep? c l.candidate = some candidate) :
    l.next? = some ({ l with place := c, fresh, candidate }.closeFrom (c.column + 1)) := by
  have hflow : l.place.skip l.inFlow l.fresh = (c, fresh) := by
    rw [inFlow, houter]
    exact hskip
  rw [next?_of_skip hflow]
  simp [keep?, hkeep, houter]

theorem next?_behind {fresh : Bool} (hc : IsVisible c.rest) :
    (behind c toks cs fresh).next? = some ((behind c toks cs fresh).closeFrom (c.column + 1)) :=
  next?_eq rfl (Cursor.skip_of_isVisible hc false fresh) rfl

/-- In the next line no candidate is left. -/
theorem leads_lineStart (houter : l.outer = [])
    (hskip : l.place.skip false l.fresh = (.lineStart n t, true))
    (hcandidate : ∀ k ∈ l.candidate, k.required = false ∧ k.start.line ≠ n)
    (ht : IsVisible (unindented t)) (hlen : (unindented t).length ≤ l.place.rest.length) :
    Leads l (behind (.lineStart n t) l.tokens l.columns true) := by
  have hkeep : Candidate.keep? (.lineStart n t) l.candidate = some none := by
    cases hcand : l.candidate with
    | none => rfl
    | some k =>
      obtain ⟨hrequired, hline⟩ := hcandidate k hcand
      have hstale : k.isStale (.lineStart n t) = true := by
        have hne : (k.start.line != n) = true := by simpa using hline
        simp [Candidate.isStale, Cursor.lineStart, hne]
      simp [Candidate.keep?, hstale, hrequired]
  refine leads_of_next? ?_ hlen
  rw [next?_eq houter hskip hkeep, next?_behind ht, houter]
  rfl

/-- A line end leads to the next line. -/
theorem leads_lineBreak (toks : List Token) (cs : List Nat) (fresh : Bool)
    (hrest : c.rest = '\n' :: t) (ht : IsVisible (unindented t)) :
    Leads (behind c toks cs fresh) (behind (.lineStart (c.line + 1) t) toks cs true) := by
  refine leads_lineStart rfl (Cursor.skip_break hrest ht fresh)
    (fun _ hk => absurd hk (Option.not_mem_none _)) ht ?_
  show (unindented t).length ≤ c.rest.length
  rw [hrest, List.length_cons]
  exact Nat.le_succ_of_le (List.length_dropWhile_le _ _)

/-- Closing from a column closes the collections one by one. -/
theorem closeFrom_behind_cons {j : Nat} {fresh : Bool} (h : k ≤ j) :
    (behind c toks (j :: cs) fresh).closeFrom k =
      (behind c (.blockEnd :: toks) cs fresh).closeFrom k := by
  have htake : (j :: cs).takeWhile (k ≤ ·) = j :: cs.takeWhile (k ≤ ·) :=
    List.takeWhile_cons_of_pos (by simpa using h)
  simp only [closeFrom, behind, htake, List.length_cons, List.drop_succ_cons,
    List.replicate_succ', List.append_assoc, List.singleton_append]
  rfl

/-- The end of a table shows at the next token. -/
theorem leads_blockEnd {j : Nat} (hj : c.column < j) (hc : IsVisible c.rest) :
    Leads (behind c toks (j :: cs) true) (behind c (.blockEnd :: toks) cs true) := by
  refine leads_of_next? ?_ (Nat.le_refl _)
  rw [next?_behind hc, next?_behind hc, closeFrom_behind_cons (Nat.succ_le_of_lt hj)]

/-! ## Texts in a line -/

/-- The candidate that a node at the place is. -/
def proposed (l : Lexer) : Option Candidate :=
  if l.fresh then
    some { position := l.tokens.length, start := l.place
           required := !l.inFlow && l.columns.head? == some l.place.column }
  else none

theorem propose?_eq (hcandidate : l.candidate = none) :
    l.propose? = some { l with candidate := l.proposed } := by
  obtain ⟨place, toks, cs, fresh, candidate, outer⟩ := l
  obtain rfl : candidate = none := hcandidate
  cases fresh <;> rfl

/-- Behind the column of the table a node need not be a key. -/
theorem proposed_behind {fresh : Bool} {candidate : Candidate} (hk : k < c.column)
    (h : candidate ∈ (behind c toks (k :: cs) fresh).proposed) :
    candidate.required = false ∧ candidate.start = c := by
  cases fresh with
  | false => cases h
  | true =>
    cases h
    simp [behind, Nat.ne_of_lt hk]

/-- A node is read at the place, and is a candidate if a key may start there. -/
theorem node?_eq {read? : Cursor → Option (Token × Bool × Cursor)} {token : Token} {fresh : Bool}
    (hcandidate : l.candidate = none) (hread : read? l.place = some (token, fresh, c)) :
    l.node? read? = some { l with
      place := c, tokens := token :: l.tokens, fresh, candidate := l.proposed } := by
  rw [node?, propose?_eq hcandidate]
  simp [hread, read]

/-- The reader of what stands in a line. -/
def inlineReader (indent : Nat) : ScalarStyle → Cursor → Option (Token × Bool × Cursor)
  | .plain, c => (Plain.read? false indent c).map fun (text, broken, d) =>
      (.scalar .plain text, broken, d)
  | _, c => (Quoted.read? c).map fun (style, text, d) => (.scalar style text, false, d)

/-- A text that stands plain is a plain scalar. -/
theorem token?_plain (h : IsPlain x s) (hrest : l.place.rest = x :: (s ++ t))
    (houter : l.outer = []) : l.token? x = l.node? (inlineReader l.indent .plain) := by
  have hflow : l.inFlow = false := by rw [inFlow, houter]; rfl
  have hplain : l.plain? = l.node? (inlineReader l.indent .plain) := by
    rw [plain?, hrest, hflow, if_pos (Plain.starts_isPlain h t)]
    rfl
  have hguarded : x ∈ Style.guardedMarks → isBlankAhead (l.place.rest.drop 1) = false := by
    intro hx
    rw [hrest]
    exact isBlankAhead_append (h.isBlankAhead_eq_false hx)
  rw [← hplain]
  unfold token?
  -- Three marks start a plain scalar if no blank follows, and the others do not occur.
  split
  case h_6 => rw [hguarded (by decide)]; rfl
  case h_7 => rw [hguarded (by decide), hflow]; rfl
  case h_8 => rw [hguarded (by decide), hflow]; rfl
  case h_16 => rfl
  all_goals exact absurd rfl (h.ne_openingMark (by decide))

/-- What stands in a line is a node. -/
theorem token?_inline {column : Nat} {u : List Char} (h : Inline column s style (x :: u))
    (hrest : l.place.rest = x :: u ++ t) (houter : l.outer = []) :
    l.token? x = l.node? (inlineReader l.indent style) := by
  cases h with
  | plain h => exact token?_plain h hrest houter
  | single => rfl
  | double => rfl

/-- In front of its colon, what stands in a line is read up to there. -/
theorem inlineReader_colon {column indent : Nat} (h : Inline column s style w)
    (hrest : c.rest = w ++ ':' :: t) (ht : isBlankAhead t = true) :
    inlineReader indent style c = some (.scalar style (String.ofList s), false, c.across w) := by
  cases h with
  | plain h =>
    rw [inlineReader, Plain.read?_key h hrest ht]
    rfl
  | single hs hfeed =>
    rw [inlineReader, Quoted.read?_single hs hfeed (Nat.succ_pos _) hrest (by simp)]
    · rfl
    · exact nofun
  | double =>
    rw [inlineReader, Quoted.read?_double hrest]
    · rfl
    · exact nofun

/-- In front of a line end, what stands in a line is read, and the next token is in the next line.
The place of a plain scalar's end is there already. -/
theorem inlineReader_break {column indent : Nat} (h : Inline column s style w)
    (hrest : c.rest = w ++ '\n' :: t) (ht : IsVisible (unindented t))
    (hindent : (indentation t).length < indent) :
    ∃ fresh d, inlineReader indent style c = some (.scalar style (String.ofList s), fresh, d) ∧
      d.skip false fresh = (.lineStart ((c.across w).line + 1) t, true) ∧
      (unindented t).length ≤ d.rest.length ∧ d.rest.length ≤ t.length + 1 := by
  have hlen : (unindented t).length ≤ t.length + 1 :=
    Nat.le_succ_of_le (List.length_dropWhile_le _ _)
  have hbreak : (c.across w).skip false false = (.lineStart ((c.across w).line + 1) t, true) ∧
      (unindented t).length ≤ (c.across w).rest.length ∧
      (c.across w).rest.length ≤ t.length + 1 := by
    have hover := Cursor.rest_across hrest
    rw [Cursor.skip_break hover ht false, hover]
    exact ⟨rfl, hlen, Nat.le_refl _⟩
  cases h with
  | plain h =>
    rw [inlineReader, Plain.read?_line h hrest ht hindent,
      Cursor.across_of_isBreak_eq_false hrest h.isBreak]
    exact ⟨true, _, rfl, Cursor.skip_of_isVisible ht false true, Nat.le_refl _, hlen⟩
  | single hs hfeed =>
    refine ⟨false, c.across _, ?_, hbreak⟩
    rw [inlineReader, Quoted.read?_single hs hfeed (Nat.succ_pos _) hrest (by simp)]
    · rfl
    · exact nofun
  | double =>
    refine ⟨false, c.across _, ?_, hbreak⟩
    rw [inlineReader, Quoted.read?_double hrest]
    · rfl
    · exact nofun

/-! ## Values in a line -/

variable {fresh : Bool}

/-- A space leads to the visible character behind it. -/
theorem next?_space (toks : List Token) (cs : List Nat) (fresh : Bool) {u : List Char}
    (hrest : c.rest = ' ' :: u) (hu : IsVisible u) (hcolumn : k ≤ c.column) :
    (behind c toks (k :: cs) fresh).next? = some (behind (c.step ' ') toks (k :: cs) fresh) := by
  have hunindented : unindented (' ' :: u) = u := unindented_of_isVisible hu
  have hindentation : indentation (' ' :: u) = [' '] :=
    congrArg (' ' :: ·) (indentation_of_isVisible hu)
  have hskip : c.skip false fresh = (c.step ' ', fresh) := by
    rw [Cursor.skip_indentation hrest (by rwa [hunindented]), hindentation]
    rfl
  have hnext := next?_eq (l := behind c toks (k :: cs) fresh) rfl hskip rfl
  rw [hnext, closeFrom_of_lt]
  · rfl
  · rintro j ⟨⟩
    show k < c.column + 1 + 1
    omega

/-- Behind the start of a line, a token is a step. -/
theorem leads_of_token?_inLine {u : List Char} (hnext : l.next? = some f)
    (hrest : f.place.rest = x :: u) (hcolumn : f.place.column ≠ 0) (htoken : f.token? x = some l')
    (hlen : l'.place.rest.length < l.place.rest.length) : Leads l l' := by
  obtain ⟨hstart, hstop⟩ := Cursor.atStart_atStop_eq_false (Or.inl hcolumn)
  exact leads_of_token? hnext hrest (Or.inl hcolumn) hstart hstop htoken hlen

/-- What stands in a line behind a mark is its scalar. -/
theorem leads_inline (h : Inline k s style w) (hrest : c.rest = ' ' :: (w ++ '\n' :: t))
    (hcolumn : k < c.column) (ht : Follows k t) :
    ∃ n, Leads (behind c toks (k :: cs) fresh)
      (behind (.lineStart n t) (.scalar style (String.ofList s) :: toks) (k :: cs) true) := by
  obtain ⟨x, u, rfl, hvisible, -⟩ := h.exists_head
  have hnext := next?_space toks cs fresh hrest (hvisible _) (Nat.le_of_lt hcolumn)
  have hplace : (c.step ' ').rest = x :: u ++ '\n' :: t := Cursor.rest_step_of_eq hrest
  obtain ⟨fresh', d, hread, hskip, hlen, hle⟩ := inlineReader_break h hplace ht.isVisible
    (Nat.lt_succ_of_le ht.length_indentation_le)
  generalize hline : ((c.step ' ').across (x :: u)).line + 1 = n at hskip
  have hlt : (c.step ' ').line < n := by
    rw [← hline]
    exact Nat.lt_succ_of_le (Cursor.line_le_across _ _)
  have htoken := (token?_inline (l := behind (c.step ' ') toks (k :: cs) fresh) h hplace rfl).trans
    (node?_eq rfl hread)
  have hstep := leads_of_token?_inLine hnext hplace (Nat.succ_ne_zero _) htoken (by
    show d.rest.length < c.rest.length
    rw [hrest]
    simp
    omega)
  refine ⟨n, hstep.trans (leads_lineStart rfl hskip ?_ ht.isVisible hlen)⟩
  intro candidate hcandidate
  obtain ⟨hrequired, hstart⟩ := proposed_behind (Nat.lt_succ_of_lt hcolumn) hcandidate
  rw [hstart]
  exact ⟨hrequired, Nat.ne_of_lt hlt⟩

/-- A literal block behind a mark is its scalar. -/
theorem leads_literal (hs : s ≠ []) (htab : ∀ x ∈ s, x ≠ '\t')
    (hrest : c.rest = ' ' :: (Block.literal (k + 2) s ++ t)) (hcolumn : k < c.column)
    (ht : Follows k t) :
    ∃ n, Leads (behind c toks (k :: cs) fresh)
      (behind (.lineStart n t) (.scalar .literal (String.ofList s) :: toks) (k :: cs) true) := by
  have hplace : (c.step ' ').rest = Block.literal (k + 2) s ++ t := Cursor.rest_step_of_eq hrest
  have hnext := next?_space toks cs fresh hrest
    (isVisible_cons rfl rfl (by decide) (by decide)) (Nat.le_of_lt hcolumn)
  have hread := Block.read?_literal hs htab hplace ht.isVisible ht.length_indentation_le
  generalize ((c.step ' ').across (Block.literal (k + 2) s)).line = n at hread
  have htoken : (behind (c.step ' ') toks (k :: cs) fresh).token? '|' = some
      (behind (.lineStart n t) (.scalar .literal (String.ofList s) :: toks) (k :: cs) true) := by
    show (Block.read? (k + 1) (c.step ' ')).bind _ = _
    rw [hread]
    rfl
  refine ⟨n, leads_of_token?_inLine hnext hplace (Nat.succ_ne_zero _) htoken ?_⟩
  show (unindented t).length < c.rest.length
  have hle : (unindented t).length ≤ t.length := List.length_dropWhile_le _ _
  rw [hrest, List.length_cons, List.length_append]
  omega

/-- **A text behind a mark is its scalar**, and the next token is in a line behind it. -/
theorem leads_textLine (toks : List Token) (cs : List Nat) (fresh : Bool)
    (hrest : c.rest = ' ' :: (textLine k s ++ t)) (hcolumn : k < c.column)
    (ht : Follows k t) :
    ∃ n, Leads (behind c toks (k :: cs) fresh) (behind (.lineStart n t)
      (.scalar (Style.ofText s) (String.ofList s) :: toks) (k :: cs) true) := by
  rcases textLine_cases k s with ⟨w, hw, hline⟩ | ⟨hstyle, hfeed, hescape, hline⟩
  · rw [hline, List.append_assoc] at hrest
    exact leads_inline hw hrest hcolumn ht
  · rw [hline] at hrest
    rw [hstyle]
    have htab : ∀ x ∈ s, x ≠ '\t' := by
      rintro x hx rfl
      cases isPrintable_of_needsEscape hescape _ hx
    exact leads_literal (List.ne_nil_of_mem hfeed) htab hrest hcolumn ht

/-! ## Empty tables -/

/-- A pair of braces in which nothing stands. -/
def emptyTable : List Char := ['\x7b', '\x7d']

/-- Inside a pair of braces, with the candidate in front of it. -/
def inside (c : Cursor) (toks : List Token) (cs : List Nat) (candidate : Option Candidate) :
    Lexer where
  place := c
  tokens := toks
  columns := cs
  outer := [candidate]

/-- Behind a node that may turn out to be a key. -/
def pending (c : Cursor) (toks : List Token) (cs : List Nat) (candidate : Option Candidate) :
    Lexer where
  place := c
  tokens := toks
  columns := cs
  fresh := false
  candidate := candidate

/-- The candidate in front of a pair of braces is kept at the next character. -/
theorem next?_inside (toks : List Token) (cs : List Nat) {candidate : Option Candidate}
    {u : List Char} (hrest : c.rest = '\x7b' :: u) (hu : IsVisible u)
    (hcandidate : ∀ k ∈ candidate, k.start = c) :
    (inside (c.across ['\x7b']) toks cs candidate).next? =
      some (inside (c.across ['\x7b']) toks cs candidate) := by
  have hvisible : IsVisible (c.across ['\x7b']).rest := by
    rwa [Cursor.rest_across (s := ['\x7b']) hrest]
  have hkeep : Candidate.keep? (c.across ['\x7b']) candidate = some candidate := by
    cases candidate with
    | none => rfl
    | some k =>
      have hwidth : ¬c.width + Candidate.longest < c.width + 1 := by
        unfold Candidate.longest
        omega
      have hstale : k.isStale (c.across ['\x7b']) = false := by
        rw [Candidate.isStale, hcandidate k rfl]
        show ((c.line != c.line) || decide (c.width + Candidate.longest < c.width + 1)) = false
        simp [hwidth]
      simp [Candidate.keep?, hstale]
  have hkept : (inside (c.across ['\x7b']) toks cs candidate).keep? =
      some (inside (c.across ['\x7b']) toks cs candidate) := by
    show (List.mapM (Candidate.keep? (c.across ['\x7b'])) [candidate]).bind _ = _
    simp only [List.mapM_cons, List.mapM_nil, hkeep]
    rfl
  rw [next?_of_skip (l := inside (c.across ['\x7b']) toks cs candidate)
    (Cursor.skip_of_isVisible hvisible true true)]
  exact congrArg (Option.map _) hkept

theorem token?_openBrace {u : List Char} (hrest : c.rest = '\x7b' :: u) :
    (behind c toks cs fresh).token? '\x7b' = some
      (inside (c.across ['\x7b']) (.openBrace :: toks) cs (behind c toks cs fresh).proposed) := by
  show openFlow? _ _ = _
  rw [openFlow?, propose?_eq rfl, ← Cursor.past_one_eq_across hrest rfl]
  rfl

theorem token?_closeBrace {candidate : Option Candidate} {u : List Char}
    (hrest : c.rest = '\x7d' :: u) :
    (inside c toks cs candidate).token? '\x7d' =
      some (pending (c.across ['\x7d']) (.closeBrace :: toks) cs candidate) := by
  show closeFlow? _ _ = _
  rw [closeFlow?, ← Cursor.past_one_eq_across hrest rfl]
  rfl

/-- A pair of braces behind a mark is an empty table. -/
theorem leads_emptyTable (hrest : c.rest = ' ' :: (emptyTable ++ '\n' :: t))
    (hcolumn : k < c.column) (ht : Follows k t) :
    ∃ n, Leads (behind c toks (k :: cs) fresh)
      (behind (.lineStart n t) (.closeBrace :: .openBrace :: toks) (k :: cs) true) := by
  have hvisible : ∀ u, IsVisible ('\x7b' :: u) ∧ IsVisible ('\x7d' :: u) := fun u =>
    ⟨isVisible_cons rfl rfl (by decide) (by decide), isVisible_cons rfl rfl (by decide) (by decide)⟩
  have hnext := next?_space toks cs fresh hrest (hvisible _).1 (Nat.le_of_lt hcolumn)
  have hplace : (c.step ' ').rest = '\x7b' :: '\x7d' :: '\n' :: t := Cursor.rest_step_of_eq hrest
  have hlater : k < (c.step ' ').column := Nat.lt_succ_of_lt hcolumn
  generalize c.step ' ' = d at hplace hnext hlater
  have hcandidate : ∀ i ∈ (behind d toks (k :: cs) fresh).proposed,
      i.required = false ∧ i.start = d := fun i hi => proposed_behind hlater hi
  have hopen := leads_of_token?_inLine hnext hplace (Nat.ne_of_gt (Nat.zero_lt_of_lt hlater))
    (token?_openBrace hplace) (by
      rw [inside, Cursor.rest_across (s := ['\x7b']) hplace, behind, hrest]
      simp [emptyTable])
  generalize (behind d toks (k :: cs) fresh).proposed = candidate at hopen hcandidate
  have hinside := next?_inside (.openBrace :: toks) (k :: cs) hplace (hvisible _).2
    fun i hi => (hcandidate i hi).2
  have hover := Cursor.rest_across (s := ['\x7b']) hplace
  have hbreak := Cursor.rest_across (s := ['\x7d']) hover
  have hclose := leads_of_token?_inLine hinside hover (Nat.succ_ne_zero _)
    (token?_closeBrace hover) (by
      rw [pending, inside, hbreak, hover]
      exact Nat.lt_succ_self _)
  generalize hend : (d.across ['\x7b']).across ['\x7d'] = e at hbreak hclose
  have hline : e.line = d.line := by rw [← hend]; rfl
  refine ⟨e.line + 1, (hopen.trans hclose).trans (leads_lineStart rfl
    (Cursor.skip_break hbreak ht.isVisible false) ?_ ht.isVisible ?_)⟩
  · intro i hi
    obtain ⟨hrequired, hstart⟩ := hcandidate i hi
    rw [hstart, hline]
    exact ⟨hrequired, Nat.ne_of_lt (Nat.lt_succ_self d.line)⟩
  · show _ ≤ e.rest.length
    rw [hbreak, List.length_cons]
    exact Nat.le_succ_of_le (List.length_dropWhile_le _ _)

end Lexer

end PackQuery.Yaml
