import PackQuery.Proofs.Yaml.Lexer

/-!
# The tokens of what is written

A written document is read as the tokens of its outline (`tokens?_document`).

**Keys.** The first key of a table opens it (`Opens`). A key that stands in front of its colon is a
candidate until the colon is found (`leads_colon`): it stands in the same line, and at most 1024
bytes behind the start. Behind a question mark no candidate is needed.

**Entries.** From its colon on, a value is read as its tokens, and so are the entries of a table, by
induction on the outline (`leads_valuePart`, `leads_entriesPart`). What follows stands in a line
that is indented at most as far as the table, so the tables inside have ended there.
-/

namespace PackQuery.Yaml

variable {s t w : List Char} {style : ScalarStyle} {k : Nat}

/-! ## The tokens of an outline -/

mutual

/-- The tokens of an outline. -/
def Outline.tokens : Outline → List Token
  | .bool b => [.scalar .plain (if b then "true" else "false")]
  | .text s => [.scalar (Style.ofText s.toList) s]
  | .table [] => [.openBrace, .closeBrace]
  | .table ((k, v) :: es) =>
    .mappingStart :: .key :: .scalar (Style.ofText k.toList) k :: .value :: v.tokens ++
      entriesTokens es ++ [.blockEnd]

/-- The tokens of the entries of a table. -/
def entriesTokens : List (String × Outline) → List Token
  | [] => []
  | (k, v) :: es =>
    .key :: .scalar (Style.ofText k.toList) k :: .value :: v.tokens ++ entriesTokens es

end

namespace Lexer

variable {l l' : Lexer} {c : Cursor} {toks : List Token} {cs cs' : List Nat} {o : List Token}
  {u : List Char} {n : Nat}

/-! ## Keys -/

/-- Whether a table in a column is open, or is opened by its first key; then its start comes in
front of the key. -/
inductive Opens (k : Nat) (cs : List Nat) : List Nat → List Token → Prop where
  | already : Opens k cs (k :: cs) []
  | first (h : ∀ j ∈ cs.head?, j < k) : Opens k cs cs [.mappingStart]

theorem Opens.head?_le (h : Opens k cs cs' o) : ∀ j ∈ cs'.head?, j ≤ k := by
  cases h with
  | already =>
    rintro j ⟨⟩
    exact Nat.le_refl k
  | first h => exact fun j hj => Nat.le_of_lt (h j hj)

/-- In front of an entry no table ends. -/
theorem next?_of_opens (toks : List Token) (fresh : Bool) (h : Opens k cs cs' o)
    (hc : IsVisible c.rest) (hcolumn : k ≤ c.column) :
    (behind c toks cs' fresh).next? = some (behind c toks cs' fresh) := by
  rw [next?_behind hc, closeFrom_of_lt]
  exact fun j hj => Nat.lt_succ_of_le (Nat.le_trans (h.head?_le j hj) hcolumn)

theorem insert_eq (front : List Token) (t : Token) (h : l.tokens = front ++ toks) :
    l.insert t toks.length = { l with tokens := front ++ t :: toks } := by
  have hlater : l.tokens.length - toks.length = front.length := by
    rw [h, List.length_append, Nat.add_sub_cancel]
  rw [insert, hlater, h, List.take_left', List.drop_left']
  · rfl
  · rfl

/-- At the start of an entry its table is opened. -/
theorem openAt_eq (front : List Token) (h : Opens k cs l.columns o) (houter : l.outer = [])
    (htokens : l.tokens = front ++ toks) :
    l.openAt .mappingStart k toks.length =
      { l with tokens := front ++ (o ++ toks), columns := k :: cs } := by
  have hflow : l.inFlow = false := by rw [inFlow, houter]; rfl
  generalize hcolumns : l.columns = columns at h
  rw [openAt, hflow, hcolumns]
  cases h with
  | already =>
    rw [if_pos (by simp), List.nil_append, ← htokens, ← hcolumns]
  | first h =>
    have hany : (false || cs.head?.any (k ≤ ·)) = false := by
      cases cs with
      | nil => rfl
      | cons j cs => simpa using h j rfl
    rw [hany, insert_eq front _ htokens]
    rfl

/-- A colon is found behind a key. -/
theorem leads_of_value? (hnext : l.next? = some l) (hrest : l.place.rest = ':' :: u)
    (hu : isBlankAhead u = true) (hvalue : l.value? = some l') (hlen : l'.place.rest = u) :
    Leads l l' := by
  obtain ⟨hstart, hstop⟩ := Cursor.atStart_atStop_eq_false (c := l.place) (Or.inr (by simp [hrest]))
  have htoken : l.token? ':' = some l' := by
    show (if l.inFlow || isBlankAhead (l.place.rest.drop 1) then l.value? else l.plain?) = _
    rw [hrest, List.drop_succ_cons, List.drop_zero, hu, Bool.or_true, if_pos rfl, hvalue]
  exact leads_of_token? hnext hrest (Or.inr (by decide)) hstart hstop htoken
    (by rw [hlen, hrest, List.length_cons]; omega)

/-- The colon behind a candidate makes a key of it. -/
theorem leads_colon {candidate : Candidate} {token : Token} (hopens : Opens k cs cs' o)
    (hrest : c.rest = ':' :: u) (hu : isBlankAhead u = true) (hstart : candidate.start.column = k)
    (hcolumn : k ≤ c.column) (hposition : candidate.position = toks.length)
    (hstale : candidate.isStale c = false) :
    Leads (pending c (token :: toks) cs' (some candidate))
      (behind (c.across [':']) (.value :: token :: .key :: (o ++ toks)) (k :: cs) false) := by
  have hkeep : Candidate.keep? c (some candidate) = some (some candidate) := by
    simp [Candidate.keep?, hstale]
  have hskip : c.skip false false = (c, false) :=
    Cursor.skip_of_isVisible (by rw [hrest]; exact isVisible_colon u) false false
  have hnext := next?_eq (l := pending c (token :: toks) cs' (some candidate)) rfl hskip hkeep
  rw [closeFrom_of_lt fun j hj => Nat.lt_succ_of_le (Nat.le_trans (hopens.head?_le j hj) hcolumn)]
    at hnext
  refine leads_of_value? hnext hrest hu ?_ (Cursor.rest_across (s := [':']) hrest)
  have hinsert : (pending c (token :: toks) cs' (some candidate)).insert .key toks.length =
      pending c (token :: .key :: toks) cs' (some candidate) := insert_eq [token] _ rfl
  have hopen : (pending c (token :: .key :: toks) cs' (some candidate)).openAt .mappingStart k
      toks.length = pending c (token :: .key :: (o ++ toks)) (k :: cs) (some candidate) :=
    openAt_eq [token, .key] hopens rfl rfl
  have hvalue : (pending c (token :: toks) cs' (some candidate)).value? =
      some { (((pending c (token :: toks) cs' (some candidate)).insert .key
        candidate.position).openAt .mappingStart candidate.start.column
          candidate.position).readMark .value false with candidate := none } := rfl
  rw [hvalue, hposition, hstart, hinsert, hopen, ← Cursor.past_one_eq_across hrest rfl]
  rfl

/-- A key in front of its colon. -/
theorem leads_inlineKey (toks : List Token) (h : Inline k s style w) (hopens : Opens k cs cs' o)
    (hrest : c.rest = w ++ ':' :: u) (hu : isBlankAhead u = true) (hcolumn : c.column = k)
    (hbreak : ∀ x ∈ w, isBreak x = false) (hbytes : bytes w ≤ Candidate.longest) :
    ∃ d, d.rest = u ∧ k < d.column ∧ Leads (behind c toks cs' true)
      (behind d (.value :: .scalar style (String.ofList s) :: .key :: (o ++ toks)) (k :: cs)
        false) := by
  obtain ⟨x, v, rfl, hvisible, hdirective, hmarks⟩ := h.exists_head
  have hover := Cursor.across_of_isBreak_eq_false hrest hbreak
  have hcolon : (c.across (x :: v)).rest = ':' :: u := Cursor.rest_across hrest
  have hle : k ≤ (c.across (x :: v)).column := by
    rw [hover, hcolumn]
    exact Nat.le_add_right k _
  have hnext := next?_of_opens toks true hopens
    (by rw [hrest]; exact hvisible _) (Nat.le_of_eq hcolumn.symm)
  have htoken := (token?_inline (l := behind c toks cs' true) h hrest rfl).trans
    (node?_eq rfl (inlineReader_colon h hrest hu))
  have hmarker : c.atStart = false ∧ c.atStop = false := by
    constructor
    · rw [Cursor.atStart, Cursor.isMarker, hrest, (hmarks u).1]
      simp
    · rw [Cursor.atStop, Cursor.isMarker, hrest, (hmarks u).2]
      simp
  have hlength : (c.across (x :: v)).rest.length < c.rest.length := by
    rw [hcolon, hrest, List.length_append]
    exact Nat.lt_add_of_pos_left (Nat.succ_pos _)
  have hkey := leads_of_token? hnext hrest (Or.inr hdirective) hmarker.1 hmarker.2 htoken hlength
  refine ⟨(c.across (x :: v)).across [':'], Cursor.rest_across (s := [':']) hcolon,
    Nat.lt_succ_of_le hle, hkey.trans (leads_colon hopens hcolon hu hcolumn hle rfl ?_)⟩
  -- The colon stands in the line of the key, and the key is short enough.
  have hwidth : ¬c.width + Candidate.longest < c.width + bytes (x :: v) := by omega
  show ((c.line != (c.across (x :: v)).line) ||
    decide (c.width + Candidate.longest < (c.across (x :: v)).width)) = false
  rw [hover]
  simp [hwidth]

/-- A table is opened in the column of the place. -/
theorem openHere?_behind (hopens : Opens k cs cs' o) (hcolumn : c.column = k) :
    (behind c toks cs' true).openHere? .mappingStart =
      some (behind c (o ++ toks) (k :: cs) true) := by
  have hopen : (behind c toks cs' true).openAt .mappingStart k toks.length =
      behind c (o ++ toks) (k :: cs) true := openAt_eq [] hopens rfl rfl
  rw [← hopen, ← hcolumn]
  rfl

/-- A question mark opens the table, and its key is behind it. -/
theorem token?_questionMark (hopens : Opens k cs cs' o) (hrest : c.rest = '?' :: ' ' :: u)
    (hcolumn : c.column = k) :
    (behind c toks cs' true).token? '?' =
      some (behind (c.across ['?']) (.key :: (o ++ toks)) (k :: cs) true) := by
  have hmarks : isBlankAhead ((behind c toks cs' true).place.rest.drop 1) = true := by
    show isBlankAhead (c.rest.drop 1) = true
    rw [hrest]
    rfl
  show (if _ || isBlankAhead ((behind c toks cs' true).place.rest.drop 1) then key? _ else _) = _
  rw [hmarks, Bool.or_true, if_pos rfl, key?, openHere?_behind hopens hcolumn,
    ← Cursor.past_one_eq_across (c := c) hrest rfl]
  rfl

/-- A colon at the start of a line ends an explicit key. -/
theorem leads_lineColon (hrest : c.rest = ':' :: u) (hu : isBlankAhead u = true)
    (hcolumn : c.column = k) :
    Leads (behind c toks (k :: cs) true)
      (behind (c.across [':']) (.value :: toks) (k :: cs) true) := by
  have hvisible : IsVisible c.rest := by
    rw [hrest]
    exact isVisible_colon u
  have hvalue : (behind c toks (k :: cs) true).value? =
      some (behind (c.across [':']) (.value :: toks) (k :: cs) true) := by
    have hnone : (behind c toks (k :: cs) true).value? =
        ((behind c toks (k :: cs) true).openHere? .mappingStart).map
          fun l => l.readMark .value true := rfl
    rw [hnone, openHere?_behind .already hcolumn,
      ← Cursor.past_one_eq_across (c := c) hrest rfl]
    rfl
  exact leads_of_value? (next?_of_opens toks true .already hvisible (Nat.le_of_eq hcolumn.symm))
    hrest hu hvalue (Cursor.rest_across (s := [':']) hrest)

/-- A key behind a question mark, with its colon in a line of its own. -/
theorem leads_explicitKey (toks : List Token) (hopens : Opens k cs cs' o)
    (hrest : c.rest = '?' :: ' ' :: (textLine k s ++ (List.replicate k ' ' ++ ':' :: u)))
    (hu : isBlankAhead u = true) (hcolumn : c.column = k) :
    ∃ d, d.rest = u ∧ k < d.column ∧ Leads (behind c toks cs' true)
      (behind d (.value :: .scalar (Style.ofText s) (String.ofList s) :: .key :: (o ++ toks))
        (k :: cs) true) := by
  have hnext := next?_of_opens toks true hopens
    (by rw [hrest]; exact isVisible_cons rfl rfl (by decide) (by decide))
    (Nat.le_of_eq hcolumn.symm)
  obtain ⟨hstart, hstop⟩ := Cursor.atStart_atStop_eq_false (c := c) (Or.inr (by simp [hrest]))
  have hover := Cursor.rest_across (s := ['?']) hrest
  have hmark := leads_of_token? hnext hrest (Or.inr (by decide)) hstart hstop
    (token?_questionMark hopens hrest hcolumn) (by simp [behind, hover, hrest])
  have hbehind : k < (c.across ['?']).column := by
    rw [← hcolumn]
    exact Nat.lt_succ_self c.column
  obtain ⟨n, htext⟩ := leads_textLine (.key :: (o ++ toks)) cs true hover hbehind
    (follows_replicate (isVisible_colon u) k)
  rw [Cursor.lineStart_replicate (isVisible_colon u)] at htext
  exact ⟨Cursor.across { rest := ':' :: u, line := n, column := k, width := k } [':'],
    Cursor.rest_across (s := [':']) rfl, Nat.lt_succ_self k,
    (hmark.trans htext).trans (leads_lineColon rfl hu rfl)⟩

/-- **A key leads to its value**, which stands behind the column of its table. -/
theorem leads_keyPart (toks : List Token) (n : Nat) (key : String) (hopens : Opens k cs cs' o)
    (hu : isBlankAhead u = true) :
    ∃ d fresh, d.rest = u ∧ k < d.column ∧
      Leads (behind (.lineStart n (keyPart k key ++ u)) toks cs' true)
        (behind d (.value :: .scalar (Style.ofText key.toList) key :: .key :: (o ++ toks))
          (k :: cs) fresh) := by
  rcases keyPart_cases k key with ⟨w, hw, hbreak, hbytes, hkey⟩ | hkey
  · have hvisible : IsVisible (w ++ ':' :: u) := by
      obtain ⟨x, v, rfl, hvisible, -⟩ := hw.exists_head
      exact hvisible _
    rw [hkey, List.append_assoc, List.append_assoc, List.singleton_append,
      Cursor.lineStart_replicate hvisible]
    obtain ⟨d, hrest, hcolumn, hleads⟩ := leads_inlineKey toks hw hopens
      (c := { rest := w ++ ':' :: u, line := n, column := k, width := k }) rfl hu rfl hbreak hbytes
    rw [String.ofList_toList] at hleads
    exact ⟨d, false, hrest, hcolumn, hleads⟩
  · rw [hkey, List.append_assoc, List.cons_append, List.cons_append, List.append_assoc,
      List.append_assoc, List.singleton_append,
      Cursor.lineStart_replicate (isVisible_cons rfl rfl (by decide) (by decide))]
    obtain ⟨d, hrest, hcolumn, hleads⟩ := leads_explicitKey toks hopens
      (c := { rest := _, line := n, column := k, width := k }) rfl hu rfl
    rw [String.ofList_toList] at hleads
    exact ⟨d, true, hrest, hcolumn, hleads⟩

/-! ## Entries -/

mutual

/-- **A value behind its colon is read as its tokens**, and the next token is in a line behind
it. -/
theorem leads_valuePart (k : Nat) (v : Outline) (c : Cursor) (toks : List Token) (cs : List Nat)
    (fresh : Bool) (t : List Char) (hrest : c.rest = valuePart k v ++ t) (hcolumn : k < c.column)
    (ht : Follows k t) :
    ∃ n, Leads (behind c toks (k :: cs) fresh)
      (behind (.lineStart n t) (v.tokens.reverse ++ toks) (k :: cs) true) := by
  match v with
  | .bool b =>
    rw [valuePart] at hrest
    cases b with
    | true => exact leads_inline (inline_true k) hrest hcolumn ht
    | false => exact leads_inline (inline_false k) hrest hcolumn ht
  | .text s =>
    rw [valuePart] at hrest
    obtain ⟨n, hleads⟩ := leads_textLine toks cs fresh hrest hcolumn ht
    rw [String.ofList_toList] at hleads
    exact ⟨n, hleads⟩
  | .table [] =>
    rw [valuePart] at hrest
    exact leads_emptyTable hrest hcolumn ht
  | .table ((key, v) :: es) =>
    have hlines : c.rest = '\n' :: (entriesPart (k + 2) ((key, v) :: es) ++ t) := by
      rw [hrest, valuePart, entriesPart]
      simp
    have hinner : Follows (k + 2) t := ht.mono (Nat.le_add_right k 2)
    have hfirst : Opens (k + 2) (k :: cs) (k :: cs) [.mappingStart] := by
      refine .first ?_
      rintro j ⟨⟩
      omega
    have hline := leads_lineBreak toks (k :: cs) fresh hlines
      (follows_entriesPart hinner ((key, v) :: es)).isVisible
    obtain ⟨n, hentries⟩ := leads_entriesPart (k + 2) ((key, v) :: es) (c.line + 1) toks hfirst t
      hinner (List.cons_ne_nil _ _)
    have houter : (Cursor.lineStart n t).column < k + 2 :=
      Nat.lt_succ_of_le (Nat.le_succ_of_le ht.length_indentation_le)
    have hleads := (hline.trans hentries).trans (leads_blockEnd houter ht.isVisible)
    refine ⟨n, ?_⟩
    simpa [Outline.tokens, entriesTokens] using hleads

/-- **The entries of a table are read as their tokens**, and the first one opens it. -/
theorem leads_entriesPart (k : Nat) (es : List (String × Outline)) (n : Nat) (toks : List Token)
    {cs cs' : List Nat} {o : List Token} (hopens : Opens k cs cs' o) (t : List Char)
    (ht : Follows k t) (hes : es ≠ []) :
    ∃ n', Leads (behind (.lineStart n (entriesPart k es ++ t)) toks cs' true)
      (behind (.lineStart n' t) ((entriesTokens es).reverse ++ (o ++ toks)) (k :: cs) true) := by
  match es with
  | [] => exact absurd rfl hes
  | (key, v) :: es =>
    obtain ⟨d, fresh, hrest, hcolumn, hkey⟩ :=
      leads_keyPart toks n key hopens (isBlankAhead_valuePart k v (entriesPart k es ++ t))
    obtain ⟨n₁, hvalue⟩ :=
      leads_valuePart k v d _ cs fresh _ hrest hcolumn (follows_entriesPart ht es)
    have hentry := hkey.trans hvalue
    by_cases hlast : es = []
    · subst hlast
      refine ⟨n₁, ?_⟩
      simpa [entriesPart, entriesTokens] using hentry
    · have hopen : Opens k cs (k :: cs) [] := .already
      obtain ⟨n₂, hentries⟩ := leads_entriesPart k es n₁ _ hopen t ht hlast
      have hleads := hentry.trans hentries
      refine ⟨n₂, ?_⟩
      simpa [entriesPart, entriesTokens] using hleads

end

/-! ## Documents -/

/-- At the end of the text the table of the document ends. -/
theorem run_end (n fuel : Nat) (toks : List Token) :
    run (fuel + 1) (behind (.lineStart n []) toks [0] true) = some (.blockEnd :: toks).reverse := by
  have hnext : (behind (.lineStart n []) toks [0] true).next? =
      some (behind (.lineStart n []) toks [0] true) :=
    next?_of_opens toks true .already isVisible_nil (Nat.zero_le _)
  have hrest : (behind (.lineStart n []) toks [0] true).place.rest = [] := rfl
  have hclose : (behind (.lineStart n []) toks [0] true).closeFrom 0 =
      behind (.lineStart n []) (.blockEnd :: toks) [] true := closeFrom_behind_cons (Nat.le_refl 0)
  rw [run, hnext]
  simp only [Option.bind_eq_bind, Option.bind_some, hrest, hclose]
  rfl

/-- A run that leads to the end has the tokens of the end. -/
theorem Leads.run_eq {fuel : Nat} (h : Leads l (behind (.lineStart n []) toks [0] true))
    (hfuel : l.place.rest.length < fuel) : run fuel l = some (.blockEnd :: toks).reverse := by
  obtain ⟨m, hlen, hrun⟩ := h
  obtain ⟨rest, rfl⟩ : ∃ rest, fuel = rest + 1 + m := ⟨fuel - m - 1, by omega⟩
  rw [hrun, run_end]

end Lexer

/-- Lines that follow nothing are not indented, so the first place is at their start. -/
theorem Cursor.lineStart_of_follows (h : Follows 0 t) : Cursor.lineStart 0 t = { rest := t } := by
  have hindentation : indentation t = [] :=
    List.length_eq_zero_iff.mp (Nat.le_zero.mp h.length_indentation_le)
  have hunindented := indentation_append_unindented t
  rw [hindentation, List.nil_append] at hunindented
  rw [Cursor.lineStart, hindentation, hunindented]
  rfl

/-- **A document is read as the tokens of its table.** -/
theorem tokens?_document (e : String × Outline) (es : List (String × Outline)) :
    tokens? (document (e :: es)) = some (Outline.table (e :: es)).tokens := by
  have hprintable := isPrintable_entriesPart 0 (e :: es)
  have hallowed : (entriesPart 0 (e :: es)).all isAllowed = true :=
    List.all_eq_true.mpr fun x hx => isAllowed_of_isPrintable (hprintable x hx)
  have hfollows := follows_entriesPart (follows_nil 0) (e :: es)
  rw [List.append_nil] at hfollows
  have hopens : Lexer.Opens 0 [] [] [.mappingStart] :=
    .first fun j hj => absurd hj (Option.not_mem_none j)
  obtain ⟨n, hleads⟩ :=
    Lexer.leads_entriesPart 0 (e :: es) 0 [] hopens [] (follows_nil 0) (List.cons_ne_nil _ _)
  rw [List.append_nil, Cursor.lineStart_of_follows hfollows] at hleads
  have htokens : tokens? (document (e :: es)) =
      Lexer.run ((entriesPart 0 (e :: es)).length + 1)
        (.behind { rest := entriesPart 0 (e :: es) } [] [] true) := by
    rw [tokens?, document, String.toList_ofList, if_pos hallowed,
      normalize_of_isPrintable hprintable]
    rfl
  refine (htokens.trans (hleads.run_eq (Nat.lt_succ_self _))).trans ?_
  simp [Outline.tokens, entriesTokens]

end PackQuery.Yaml
