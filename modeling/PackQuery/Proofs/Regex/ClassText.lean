import PackQuery.Proofs.Regex.ClassMove

/-!
# Class texts

The end of a class in a pattern is found by its brackets alone. The reader also knows escapes,
classes within classes, and ASCII classes. So the last bracket of a class text need not close the
class for the reader: it may be escaped, or close a class within.

**Outcomes.** A class text is invalid, or it is closed, or some classes are left open behind it.
Which one does not depend on what follows (`readItems_body`).

**Within a class.** A class text that is read within a class never closes that one, since it closes
no more classes than it opens (`readItems_class_within`). A class without a closing bracket closes
none (`readItems_unclosed_within`).
-/

namespace PackQuery.Regex

/-! ## Reading a class text -/

/-- What has been read when the tokens of a class text are over. -/
inductive Outcome where
  /-- The text is invalid, whatever follows. -/
  | invalid
  /-- The class is closed. -/
  | closed (set : CharSet)
  /-- These classes are open. -/
  | left (k : OpenClass) (outer : List OpenClass)

namespace Outcome

/-- The items when some tokens follow. -/
def resume : Outcome → List Token → Option (List Item)
  | invalid, _ => none
  | closed s, ts => (readItems [] ts).map (.oneOf s :: ·)
  | left k outer, ts => readItems (k :: outer) ts

/-- Whether a class is open in any case. -/
def IsOpen : Outcome → Prop
  | closed _ => False
  | _ => True

end Outcome

/-- **Reading up to the end of a class** has one outcome, whatever follows, and within another
class that one stays open. -/
theorem readItems_append_of_endsClass (k : OpenClass) (outer : List OpenClass) {ts : List Token}
    (h : ts = [] ∨ EndsClass ts) :
    ∃ o : Outcome, (ts = [] ∨ outer ≠ [] → o.IsOpen) ∧
      ∀ tq, NotFirst '-' tq → readItems (k :: outer) (ts ++ tq) = o.resume tq := by
  -- A move may take several tokens, so this is an induction on their number.
  induction hn : ts.length using Nat.strong_induction_on generalizing k outer ts with
  | _ n ih =>
    match ts, h with
    | [], _ => exact ⟨.left k outer, fun _ => trivial, fun _ _ => rfl⟩
    | t :: ts, Or.inr h =>
      have hread : ∀ tq, NotFirst '-' tq → readItems (k :: outer) (t :: ts ++ tq) =
          (move? k outer t ts).bind (·.resume (ts ++ tq)) := by
        intro tq htq
        rw [List.cons_append, readItems_cons, move?_of_endsClass k outer h htq]
      cases hm : move? k outer t ts with
      | none =>
        rw [hm] at hread
        exact ⟨.invalid, fun _ => trivial, hread⟩
      | some m =>
        rw [hm] at hread
        have hwithin := move?_within h hm
        cases m with
        | finish s =>
          obtain ⟨rfl, rfl⟩ := hwithin
          exact ⟨.closed s, by simp, hread⟩
        | goOn k' outer' more =>
          obtain ⟨hmore, hrest⟩ := hwithin
          have hlength : (ts.drop more).length < n := by
            rw [← hn, List.length_drop, List.length_cons]
            omega
          obtain ⟨o, hopen, hresume⟩ := ih _ hlength k' outer' (hrest.imp id And.left) rfl
          refine ⟨o, fun hout => hopen ?_, fun tq htq => ?_⟩
          · exact hrest.imp id fun hends => hends.2 (hout.resolve_left (List.cons_ne_nil t ts))
          · rw [hread tq htq, Option.bind_some, Move.resume,
              List.drop_append_of_le_length hmore, hresume tq htq]

/-- Tokens without a closing bracket leave a class open. -/
theorem readItems_of_bracketFree (k : OpenClass) (outer : List OpenClass) {ts : List Token}
    (h : .raw ']' ∉ ts) : readItems (k :: outer) ts = none := by
  induction hn : ts.length using Nat.strong_induction_on generalizing k outer ts with
  | _ n ih =>
    cases ts with
    | nil => exact readItems_open_nil k outer
    | cons t ts =>
      rw [readItems_cons]
      cases hm : move? k outer t ts with
      | none => rfl
      | some m =>
        cases m with
        | finish s =>
          obtain ⟨_, _, heq, _⟩ | ⟨_, heq⟩ | ⟨rfl, -⟩ := move?_cases hm
          · cases heq
          · cases heq
          · exact absurd List.mem_cons_self h
        | goOn k' outer' more =>
          have hlength : (ts.drop more).length < n := by
            rw [← hn, List.length_drop, List.length_cons]
            omega
          exact ih _ hlength k' outer' (fun hmem => h (List.mem_cons_of_mem t
            (List.mem_of_mem_drop hmem))) rfl

/-! ## Class texts -/

/-- A start of a class up to a closing bracket that is a member, or no start. -/
inductive IsLead : List Char → Prop
  | nil : IsLead []
  | bracket : IsLead [']']
  | caret : IsLead ['^', ']']

/-- Whether no closing bracket stands in a text but one that is a member at the start of a
class. -/
def IsBody (body : List Char) : Prop :=
  ∃ lead tail, IsLead lead ∧ ']' ∉ tail ∧ body = lead ++ tail

theorem readFrom_lead {lead : List Char} (h : IsLead lead) (s : List Char) :
    Token.readFrom .outside (lead ++ s) =
      (Token.readFrom .outside s).map (lead.map Token.raw ++ ·) := by
  cases h with
  | nil => exact Option.map_id'.symm
  | bracket => rfl
  | caret => simp [Token.readFrom_cons, Token.step, Function.comp_def]

theorem readItems_lead {lead : List Char} (h : IsLead lead) :
    ∃ k, ∀ outer ts, readItems ({} :: outer) (lead.map Token.raw ++ ts) =
      readItems (k :: outer) ts := by
  cases h with
  | nil => exact ⟨{}, fun _ _ => rfl⟩
  | bracket => exact ⟨_, fun outer ts => readItems_cons _ _ _ _⟩
  | caret => exact ⟨_, fun outer ts => (readItems_cons _ _ _ _).trans (readItems_cons _ _ _ _)⟩

theorem asciiClass?_lead {lead : List Char} (h : IsLead lead) (hne : lead ≠ [])
    (ts : List Token) : asciiClass? (.raw '[' :: lead.map Token.raw ++ ts) = none := by
  have hcolon : ∀ p ∈ asciiSpellings, p.1.take 2 = ['[', ':'] := by decide +kernel
  rw [asciiClass?_eq, Option.map_eq_none_iff, List.find?_eq_none]
  intro p hp hspells
  rw [← List.take_append_drop 2 p.1, hcolon p hp] at hspells
  cases h with
  | nil => exact hne rfl
  | bracket | caret => simp [spells_cons, Token.isRaw] at hspells

/-- An opening bracket within a class starts an ASCII class or any other one. -/
theorem move?_bracket (k : OpenClass) (outer : List OpenClass) (ts : List Token) :
    move? k outer (.raw '[') ts =
      match asciiClass? (.raw '[' :: ts) with
      | some (s, n) => some (.goOn (k.add s) outer (n - 1))
      | none => some (.goOn {} ({ k with start := .done } :: outer) 0) := by
  have hstart : k.atStart? (.raw '[') = none := by
    cases hk : k.start <;> simp [OpenClass.atStart?, hk, Token.isRaw]
  rw [move?.eq_def, hstart]
  rfl

section
variable {body : List Char} {ts : List Token}

/-- The tokens of a class text behind its opening bracket. -/
theorem exists_of_readFrom_body (hbody : IsBody body)
    (hts : Token.readFrom .outside (body ++ [']']) = some ts) :
    ∃ lead ts', IsLead lead ∧ EndsClass ts' ∧ ts = lead.map Token.raw ++ ts' := by
  obtain ⟨lead, tail, hlead, htail, rfl⟩ := hbody
  rw [List.append_assoc, readFrom_lead hlead] at hts
  obtain ⟨ts', hts', rfl⟩ := Option.map_eq_some_iff.mp hts
  exact ⟨lead, ts', hlead, endsClass_of_readFrom htail hts', rfl⟩

/-- **A class text** has one outcome, whatever follows. -/
theorem readItems_body (hbody : IsBody body)
    (hts : Token.readFrom .outside (body ++ [']']) = some ts) (outer : List OpenClass) :
    ∃ o : Outcome, (outer ≠ [] → o.IsOpen) ∧
      ∀ tq, NotFirst '-' tq → readItems ({} :: outer) (ts ++ tq) = o.resume tq := by
  obtain ⟨lead, ts', hlead, hends, rfl⟩ := exists_of_readFrom_body hbody hts
  obtain ⟨k, hk⟩ := readItems_lead hlead
  obtain ⟨o, hopen, hresume⟩ := readItems_append_of_endsClass k outer (Or.inr hends)
  refine ⟨o, fun hne => hopen (Or.inr hne), fun tq htq => ?_⟩
  rw [List.append_assoc, hk, hresume tq htq]

theorem asciiClass?_body (hbody : IsBody body)
    (hts : Token.readFrom .outside (body ++ [']']) = some ts) (tq : List Token) :
    asciiClass? (.raw '[' :: ts ++ tq) = asciiClass? (.raw '[' :: ts) ∧
      ∀ s n, asciiClass? (.raw '[' :: ts) = some (s, n) → n = ts.length + 1 := by
  obtain ⟨lead, ts', hlead, hends, rfl⟩ := exists_of_readFrom_body hbody hts
  by_cases hnil : lead = []
  · rw [hnil]
    exact asciiClass?_of_endsClass (EndsClass.cons rfl hends) tq
  · have hnone := asciiClass?_lead hlead hnil
    refine ⟨?_, fun s n h => nomatch (hnone ts').symm.trans h⟩
    rw [← List.cons_append, List.append_assoc]
    exact (hnone _).trans (hnone _).symm

/-- **A class text within a class** leaves a class open. -/
theorem readItems_class_within (hbody : IsBody body)
    (hts : Token.readFrom .outside (body ++ [']']) = some ts) (k : OpenClass)
    (outer : List OpenClass) :
    ∃ o : Outcome, o.IsOpen ∧
      ∀ tq, NotFirst '-' tq → readItems (k :: outer) (.raw '[' :: ts ++ tq) = o.resume tq := by
  have hmove : ∀ tq, move? k outer (.raw '[') (ts ++ tq) = move? k outer (.raw '[') ts := by
    intro tq
    rw [move?_bracket, move?_bracket, ← List.cons_append, (asciiClass?_body hbody hts tq).1]
  cases hascii : asciiClass? (.raw '[' :: ts) with
  | some p =>
    obtain ⟨s, n⟩ := p
    have hn := (asciiClass?_body hbody hts []).2 s n hascii
    refine ⟨.left (k.add s) outer, trivial, fun tq _ => ?_⟩
    rw [List.cons_append, readItems_cons, hmove, move?_bracket, hascii, hn]
    exact congrArg _ List.drop_left
  | none =>
    obtain ⟨o, hopen, hresume⟩ := readItems_body hbody hts ({ k with start := .done } :: outer)
    refine ⟨o, hopen (List.cons_ne_nil _ _), fun tq htq => ?_⟩
    rw [List.cons_append, readItems_cons, hmove, move?_bracket, hascii, ← hresume tq htq]
    rfl

/-- A class that is not closed is invalid. -/
theorem readItems_unclosed (hbody : IsBody body)
    (hts : Token.readFrom .outside body = some ts) (outer : List OpenClass) :
    readItems ({} :: outer) ts = none := by
  obtain ⟨lead, tail, hlead, htail, rfl⟩ := hbody
  rw [readFrom_lead hlead] at hts
  obtain ⟨ts', hts', rfl⟩ := Option.map_eq_some_iff.mp hts
  obtain ⟨k, hk⟩ := readItems_lead hlead
  rw [hk]
  exact readItems_of_bracketFree k outer fun hmem => htail (Token.raw_mem_of_readFrom hts' hmem)

/-- A class that is not closed is invalid within a class, too. -/
theorem readItems_unclosed_within (hbody : IsBody body)
    (hts : Token.readFrom .outside body = some ts) (k : OpenClass) (outer : List OpenClass) :
    readItems (k :: outer) (.raw '[' :: ts) = none := by
  obtain ⟨lead, tail, hlead, htail, hlt⟩ := id hbody
  by_cases hnil : lead = []
  · refine readItems_of_bracketFree k outer ?_
    rw [hnil, List.nil_append] at hlt
    rw [hlt] at hts
    simpa using fun hmem => htail (Token.raw_mem_of_readFrom hts hmem)
  · have hnone : asciiClass? (.raw '[' :: ts) = none := by
      rw [hlt, readFrom_lead hlead] at hts
      obtain ⟨ts', -, rfl⟩ := Option.map_eq_some_iff.mp hts
      exact asciiClass?_lead hlead hnil ts'
    rw [readItems_cons, move?_bracket, hnone]
    exact readItems_unclosed hbody hts _

end

end PackQuery.Regex
