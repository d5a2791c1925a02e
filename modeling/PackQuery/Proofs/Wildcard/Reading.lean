import Mathlib.Tactic.FinCases
import PackQuery.Proofs.Regex.ClassText
import PackQuery.Proofs.Wildcard.Segment

/-!
# Reading patterns

**Theorem (`parse?_expression`).** The items of a pattern are those of its segments, each class
read on its own.

Outside classes every character is read as one item, whatever meaning it has in regular
expressions (`readItems_tokens`). A class is read as one item if the reader closes it at its last
bracket. If the reader does not, then some class is open behind it, and nothing that follows in a
pattern closes that class (`readItems_expression_within`). So then the pattern is as invalid as
the class on its own (`readItems_classText`).
-/

namespace PackQuery

/-! ## Expressions without a limit -/

namespace Regex

/-- The concatenation that a regular expression denotes, whatever its room. -/
def parse? (s : List Char) : Option (List Item) := (Token.read? s).bind (readItems [])

theorem read?_eq (s : List Char) :
    read? s = (parse? s).bind fun items => if Room.fits items then some items else none := by
  rw [parse?, Option.bind_assoc]
  rfl

theorem parse?_bracket (s : List Char) :
    parse? ('[' :: s) = (Token.read? s).bind (readItems [{}]) := by
  have hopen : Token.read? ('[' :: s) = (Token.read? s).map (.raw '[' :: ·) := rfl
  rw [parse?, hopen, Option.bind_map]
  exact Option.bind_congr fun ts _ => readItems_bracket ts

end Regex

namespace Wildcard

open Regex

/-! ## Tokens of a character outside classes -/

/-- The tokens of a character outside classes. -/
def tokens (c : Char) : List Token :=
  if c = '?' then [.raw '.']
  else if c = '*' then [.raw '.', .raw '*']
  else if isMeta c then [.literal c]
  else [.raw c]

theorem afterBackslash_of_isMeta {c : Char} (h : isMeta c = true) :
    Token.afterBackslash c = some (.inl (.literal c)) := by
  simp only [isMeta, List.contains_eq_mem, decide_eq_true_eq] at h
  fin_cases h <;> rfl

theorem readFrom_outsideClass {c : Char} (hc : c ≠ '[') (s : List Char) :
    Token.readFrom .outside (outsideClass c ++ s) =
      (Token.readFrom .outside s).map (tokens c ++ ·) := by
  unfold outsideClass tokens
  by_cases hone : c = '?'
  · subst hone
    rfl
  by_cases hrun : c = '*'
  · subst hrun
    simp [Token.readFrom_cons, Token.step, Function.comp_def]
  by_cases hmeta : isMeta c = true
  · simp [hone, hrun, hc, hmeta, Token.readFrom_cons, Token.step, afterBackslash_of_isMeta]
  · have hback : c ≠ '\\' := by
      rintro rfl
      exact hmeta rfl
    simp [hone, hrun, hc, hmeta, hback, Token.readFrom_cons, Token.step]

/-- The item of a character outside classes. -/
def item (c : Char) : Item :=
  if c = '?' then .any else if c = '*' then .anyRun else .char c

theorem readItems_any {ts : List Token} (h : NotFirst '*' ts) :
    readItems [] (.raw '.' :: ts) = (readItems [] ts).map (.any :: ·) := by
  rw [readItems]
  · rfl
  · rintro ts' rfl
    cases h

theorem readItems_raw {c : Char} (h : isReserved c = false) (ts : List Token) :
    readItems [] (.raw c :: ts) = (readItems [] ts).map (.char c :: ·) := by
  have hdot : c ≠ '.' := by
    rintro rfl
    cases h
  have hopen : c ≠ '[' := by
    rintro rfl
    cases h
  rw [readItems]
  · simp [hdot, hopen, h]
  · exact fun _ _ => hdot

theorem ne_of_not_isMeta {c d : Char} (h : isMeta c ≠ true) (hd : isMeta d = true) : c ≠ d :=
  fun heq => h (heq ▸ hd)

theorem isReserved_eq_false {c : Char} (h : isMeta c ≠ true) : isReserved c = false := by
  rw [Bool.eq_false_iff]
  intro hreserved
  simp only [isReserved, List.contains_eq_mem, decide_eq_true_eq] at hreserved
  fin_cases hreserved <;> exact h rfl

/-- **Characters outside classes are read as their items.** -/
theorem readItems_tokens (c : Char) {ts : List Token} (h : NotFirst '*' ts) :
    readItems [] (tokens c ++ ts) = (readItems [] ts).map (item c :: ·) := by
  unfold tokens item
  split_ifs with hone hrun hmeta
  · exact readItems_any h
  · rw [List.cons_append, List.cons_append, readItems]
    rfl
  · rw [List.cons_append, readItems]
    rfl
  · exact readItems_raw (isReserved_eq_false hmeta) ts

theorem isRaw_of_not_mem {c : Char} {cs : List Char} (h : c ∉ cs) :
    ∀ d ∈ cs, (Token.raw c).isRaw d = false := by
  intro d hd
  rw [Token.isRaw, beq_eq_false_iff_ne]
  rintro rfl
  exact h hd

/-- Within a class they are members. -/
theorem exists_readItems_tokens (c : Char) {ts : List Token} (h : NotFirst '-' ts)
    (k : OpenClass) (outer : List OpenClass) :
    ∃ k', readItems (k :: outer) (tokens c ++ ts) = readItems (k' :: outer) ts := by
  unfold tokens
  split_ifs with hone hrun hmeta
  · exact ⟨_, readItems_member k outer (isRaw_of_not_mem (by simp)) h⟩
  · have hstar : NotFirst '-' (.raw '*' :: ts) := rfl
    exact ⟨_, (readItems_member k outer (isRaw_of_not_mem (by simp)) hstar).trans
      (readItems_member _ outer (isRaw_of_not_mem (by simp)) h)⟩
  · exact ⟨_, readItems_member k outer (fun _ _ => rfl) h⟩
  · refine ⟨_, readItems_member k outer (isRaw_of_not_mem fun hmem => hmeta ?_) h⟩
    fin_cases hmem <;> rfl

theorem notFirst_tokens (c : Char) (ts : List Token) :
    NotFirst '-' (tokens c ++ ts) ∧ NotFirst '*' (tokens c ++ ts) := by
  unfold tokens
  split_ifs with hone hrun hmeta
  · exact ⟨rfl, rfl⟩
  · exact ⟨rfl, rfl⟩
  · exact ⟨rfl, rfl⟩
  · exact ⟨beq_eq_false_iff_ne.mpr (ne_of_not_isMeta hmeta rfl),
      beq_eq_false_iff_ne.mpr (ne_of_not_isMeta hmeta rfl)⟩

/-! ## The bodies of classes -/

theorem isBody_cons {c : Char} {tail : List Char} (h : ']' ∉ tail) : IsBody (c :: tail) := by
  by_cases hc : c = ']'
  · exact ⟨[']'], tail, .bracket, h, by rw [hc]; rfl⟩
  · exact ⟨[], c :: tail, .nil, by simp [Ne.symm hc, h], rfl⟩

theorem isBody_caret {c : Char} {tail : List Char} (h : ']' ∉ tail) :
    IsBody ('^' :: c :: tail) := by
  by_cases hc : c = ']'
  · exact ⟨['^', ']'], tail, .caret, h, by rw [hc]; rfl⟩
  · exact ⟨[], '^' :: c :: tail, .nil, by simp [Ne.symm hc, h], rfl⟩

/-- What is between the brackets of a class. -/
theorem isBody_of_splitClass? {s body rest : List Char} (h : splitClass? s = some (body, rest)) :
    IsBody body := by
  unfold splitClass? at h
  split at h
  · obtain ⟨tail, htail, rfl, -⟩ := closeClass?_eq_some h
    exact isBody_caret htail
  · obtain ⟨tail, htail, rfl, -⟩ := closeClass?_eq_some h
    exact isBody_cons htail
  · cases h

/-- What follows the bracket of a class that is left open. -/
theorem isBody_of_splitClass?_eq_none {s : List Char} (h : splitClass? s = none) : IsBody s := by
  unfold splitClass? at h
  split at h
  · exact isBody_caret (closeClass?_eq_none h)
  · exact isBody_cons (closeClass?_eq_none h)
  · exact ⟨[], [], .nil, List.not_mem_nil, rfl⟩

/-! ## Tokens of a class -/

theorem readFrom_classText (body s : List Char) :
    Token.readFrom .outside (classText body ++ s) =
      (Token.readFrom .outside (body ++ [']'])).bind fun ts =>
        (Token.readFrom .outside s).map (.raw '[' :: ts ++ ·) := by
  have hopen : Token.readFrom .outside (classText body ++ s) =
      (Token.readFrom .outside (body ++ ']' :: s)).map (.raw '[' :: ·) := by
    rw [classText, List.cons_append, List.append_assoc]
    rfl
  rw [hopen, Token.readFrom_bracket_append, Option.map_bind]
  simp only [Function.comp_def, Option.map_map, List.cons_append]

/-- The expression of a pattern does not start with a mark that ends what stands before. -/
theorem notFirst_of_expression {p : List Char} {ts : List Token}
    (h : Token.readFrom .outside (expression p) = some ts) :
    NotFirst '-' ts ∧ NotFirst '*' ts := by
  cases p with
  | nil =>
    cases h
    exact ⟨trivial, trivial⟩
  | cons c s =>
    by_cases hc : c = '['
    · obtain ⟨ts', -, rfl⟩ : ∃ ts', Token.readFrom .outside (expressionFrom .first s) = some ts' ∧
          .raw '[' :: ts' = ts := by
        rw [hc] at h
        exact Option.map_eq_some_iff.mp h
      exact ⟨rfl, rfl⟩
    · rw [expression_cons hc, readFrom_outsideClass hc] at h
      obtain ⟨ts', -, rfl⟩ := Option.map_eq_some_iff.mp h
      exact notFirst_tokens c ts'

/-- **A pattern within a class never closes it.** -/
theorem readItems_expression_within {p : List Char} {ts : List Token}
    (h : Token.readFrom .outside (expression p) = some ts) (k : OpenClass)
    (outer : List OpenClass) : readItems (k :: outer) ts = none := by
  -- The classes of the pattern close only themselves, so this follows its segments.
  fun_induction segments? p generalizing k outer ts with
  | case1 =>
    cases h
    exact readItems_open_nil k outer
  | case2 s body rest hsplit ih =>
    rw [expression_bracket, hsplit] at h
    dsimp only at h
    rw [readFrom_classText] at h
    obtain ⟨ts', hts', h⟩ := Option.bind_eq_some_iff.mp h
    obtain ⟨tq, htq, rfl⟩ := Option.map_eq_some_iff.mp h
    obtain ⟨o, hopen, hresume⟩ :=
      readItems_class_within (isBody_of_splitClass? hsplit) hts' k outer
    rw [hresume tq (notFirst_of_expression htq).1]
    cases o with
    | invalid => rfl
    | closed s => cases hopen
    | left k' outer' => exact ih htq k' outer'
  | case3 s hsplit =>
    rw [expression_bracket, hsplit] at h
    obtain ⟨ts', hts', rfl⟩ := Option.map_eq_some_iff.mp h
    exact readItems_unclosed_within (isBody_of_splitClass?_eq_none hsplit) hts' k outer
  | case4 c s hc ih =>
    rw [expression_cons hc, readFrom_outsideClass hc] at h
    obtain ⟨tq, htq, rfl⟩ := Option.map_eq_some_iff.mp h
    obtain ⟨k', hread⟩ :=
      exists_readItems_tokens c (notFirst_of_expression htq).1 k outer
    rw [hread, ih htq k' outer]

/-! ## Classes on their own -/

/-- The set of a class on its own, if it is valid. -/
def classSet? (body : List Char) : Option CharSet :=
  match parse? (classText body) with
  | some [.oneOf s] => some s
  | _ => none

/-- A class on its own is read as one item, or it is invalid. In front of a pattern it is read
alike. -/
theorem readItems_classText {body : List Char} {ts : List Token} (hbody : IsBody body)
    (hts : Token.readFrom .outside (body ++ [']']) = some ts) :
    parse? (classText body) = (classSet? body).map (fun s => [.oneOf s]) ∧
      ∀ tq, NotFirst '-' tq → (∀ k outer, readItems (k :: outer) tq = none) →
        readItems [] (.raw '[' :: ts ++ tq) =
          (classSet? body).bind fun s => (readItems [] tq).map (.oneOf s :: ·) := by
  obtain ⟨o, -, hresume⟩ := readItems_body hbody hts []
  have halone : parse? (classText body) = o.resume [] := by
    rw [classText, parse?_bracket, Token.read?, hts, ← hresume [] trivial, List.append_nil]
    rfl
  have hfollowed : ∀ tq, NotFirst '-' tq →
      readItems [] (.raw '[' :: ts ++ tq) = o.resume tq := by
    intro tq htq
    rw [List.cons_append, readItems_bracket, hresume tq htq]
  rw [classSet?, halone]
  cases o with
  | invalid => exact ⟨rfl, fun tq htq _ => hfollowed tq htq⟩
  | closed s =>
    rw [Outcome.resume, readItems_nil]
    exact ⟨rfl, fun tq htq _ => hfollowed tq htq⟩
  | left k outer =>
    rw [Outcome.resume, readItems_open_nil]
    exact ⟨rfl, fun tq htq hwithin => (hfollowed tq htq).trans (hwithin k outer)⟩

/-- A class with an escape that is not known is invalid on its own. -/
theorem parse?_classText_eq_none {body : List Char}
    (hts : Token.readFrom .outside (body ++ [']']) = none) : parse? (classText body) = none := by
  rw [classText, parse?_bracket, Token.read?, hts]
  rfl

theorem parse?_classText {body : List Char} (hbody : IsBody body) :
    parse? (classText body) = (classSet? body).map fun s => [.oneOf s] := by
  cases hts : Token.readFrom .outside (body ++ [']']) with
  | some ts => exact (readItems_classText hbody hts).1
  | none =>
    rw [classSet?, parse?_classText_eq_none hts]
    rfl

/-! ## Patterns -/

/-- The item of a segment. -/
def Segment.item? : Segment → Option Item
  | one => some .any
  | run => some .anyRun
  | char c => some (.char c)
  | bracket body => (classSet? body).map .oneOf

theorem exists_of_item?_bracket {body : List Char} (hbody : IsBody body) {i : Item}
    (h : (Segment.bracket body).item? = some i) :
    ∃ s, i = .oneOf s ∧ parse? (classText body) = some [.oneOf s] := by
  obtain ⟨s, hs, rfl⟩ := Option.map_eq_some_iff.mp h
  refine ⟨s, rfl, ?_⟩
  rw [parse?_classText hbody, hs]
  rfl

theorem item?_ofChar (c : Char) : (Segment.ofChar c).item? = some (item c) := by
  unfold Segment.ofChar item
  split_ifs <;> rfl

/-- The items of some segments. -/
def items? (segs : List Segment) : Option (List Item) := segs.mapM Segment.item?

theorem bind_items?_cons (g : Segment) (segs? : Option (List Segment)) :
    (segs?.map (g :: ·)).bind items? =
      g.item?.bind fun i => (segs?.bind items?).map (i :: ·) := by
  cases segs? with
  | none => cases g.item? <;> rfl
  | some segs =>
    simp only [items?, Option.map_some, Option.bind_some, List.mapM_cons]
    cases g.item? <;> cases segs.mapM Segment.item? <;> rfl

/-- A text whose tokens are one item in front of a pattern. -/
theorem parse?_append {s p : List Char} {ts : List Token} {i? : Option Item}
    (hread : Token.readFrom .outside (s ++ expression p) =
      (Token.readFrom .outside (expression p)).map (ts ++ ·))
    (hitem : ∀ tq, Token.readFrom .outside (expression p) = some tq →
      readItems [] (ts ++ tq) = i?.bind fun i => (readItems [] tq).map (i :: ·)) :
    parse? (s ++ expression p) = i?.bind fun i => (parse? (expression p)).map (i :: ·) := by
  rw [parse?, parse?, Token.read?, Token.read?, hread]
  cases htq : Token.readFrom .outside (expression p) with
  | none => cases i? <;> rfl
  | some tq => exact hitem tq htq

/-- **A pattern is read segment by segment,** each class as it is read on its own. -/
theorem parse?_expression (p : List Char) :
    parse? (expression p) = (segments? p).bind items? := by
  fun_induction segments? p with
  | case1 => exact readItems_nil
  | case2 s body rest hsplit ih =>
    have hbody := isBody_of_splitClass? hsplit
    rw [expression_bracket, hsplit, bind_items?_cons, ← ih]
    dsimp only
    cases hts : Token.readFrom .outside (body ++ [']']) with
    | none =>
      have hread := readFrom_classText body (expression rest)
      rw [hts] at hread
      rw [parse?, Token.read?, hread, Segment.item?, classSet?, parse?_classText_eq_none hts]
      rfl
    | some ts =>
      have hread : Token.readFrom .outside (classText body ++ expression rest) =
          (Token.readFrom .outside (expression rest)).map (.raw '[' :: ts ++ ·) := by
        rw [readFrom_classText, hts]
        rfl
      refine parse?_append hread fun tq htq => ?_
      rw [Segment.item?, Option.bind_map]
      exact (readItems_classText hbody hts).2 tq (notFirst_of_expression htq).1
        (readItems_expression_within htq)
  | case3 s hsplit =>
    have hbody := isBody_of_splitClass?_eq_none hsplit
    rw [expression_bracket, hsplit]
    exact (parse?_bracket s).trans
      (Option.bind_eq_none_iff.mpr fun ts hts => readItems_unclosed hbody hts [])
  | case4 c s hc ih =>
    rw [expression_cons hc, bind_items?_cons, ← ih, item?_ofChar]
    exact parse?_append (readFrom_outsideClass hc _) fun tq htq =>
      readItems_tokens c (notFirst_of_expression htq).2

end Wildcard

end PackQuery
