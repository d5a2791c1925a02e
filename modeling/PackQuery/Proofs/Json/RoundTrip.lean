import PackQuery.Json.Printer
import PackQuery.Json.Reader

/-!
# Reading what is written as JSON

A value is read back from its text, whatever follows the text. This holds of values without numbers
in which strings and keys are texts (`IsTextual`), and for every layout that puts nothing but blanks
between the parts (`Layout.IsSpacing`).

**Strings** (`string?_literal`). Every character of a literal is one unit, which is the character
itself unless the character is a control without an escape of one letter.

**Values** (`IsTextual.isReadBack`). The reader drops the blanks in front of every part, so the
layout does not show. The nested readings are no more than the characters of the text.

**Dictionaries** (`dict?_ofDict`). The members of an object are the entries of a dictionary, so they
are read as the dictionary.
-/

namespace PackQuery.Json

variable {c : Char} {s w rest : List Char} {o : Layout}

/-! ## Strings -/

/-- What is read with one more unit in front. -/
def consUnit (u : Unit16) (r : List Unit16 × List Char) : List Unit16 × List Char :=
  (u :: r.1, r.2)

theorem units?_short {letter : Char} (hletter : letter ≠ 'u') (h : shortEscape? letter = some c) :
    units? ('\\' :: letter :: rest) = (units? rest).map (consUnit (.char c)) := by
  rw [units?, h]
  · cases units? rest <;> rfl
  · rintro a b c d rest rfl
    exact absurd rfl hletter

theorem units?_escaped {a b c d : Char} {n : Nat} (h : Numeral.natural? 16 [a, b, c, d] = some n) :
    units? ('\\' :: 'u' :: a :: b :: c :: d :: rest) =
      (units? rest).map (consUnit (.escaped n)) := by
  rw [units?, h]
  cases units? rest <;> rfl

theorem units?_char (hquote : c ≠ '"') (hslash : c ≠ '\\') (h : ¬c.toNat < 32) :
    units? (c :: rest) = (units? rest).map (consUnit (.char c)) := by
  rw [units?, if_neg h]
  · cases units? rest <;> rfl
  all_goals simp [hquote, hslash]

/-- The characters with an escape of one letter. -/
def shortEscaped : List Char := ['"', '\\', '\n', '\r', '\t', '\x08', '\x0c']

/-- The unit that a character of a literal is read as. -/
def unitOf (c : Char) : Unit16 :=
  if c.toNat < 32 ∧ c ∉ shortEscaped then .escaped c.toNat else .char c

/-- The four digits of a control. -/
theorem natural?_hexDigits : ∀ n < 32,
    Numeral.natural? 16 ['0', '0', hexDigit (n / 16), hexDigit (n % 16)] = some n := by
  decide

/-- A written character is read as one unit. -/
theorem units?_literalChar (c : Char) (rest : List Char) :
    units? (literalChar c ++ rest) = (units? rest).map (consUnit (unitOf c)) := by
  by_cases hshort : c ∈ shortEscaped
  · have hunit : unitOf c = .char c := by simp [unitOf, hshort]
    rw [hunit]
    simp only [shortEscaped, List.mem_cons, List.not_mem_nil, or_false] at hshort
    rcases hshort with rfl | rfl | rfl | rfl | rfl | rfl | rfl <;>
      exact units?_short (by decide) rfl
  · have hne := hshort
    simp only [shortEscaped, List.mem_cons, List.not_mem_nil, or_false, not_or] at hne
    by_cases hcontrol : c.toNat < 32
    · have hunit : unitOf c = .escaped c.toNat := by simp [unitOf, hshort, hcontrol]
      have hliteral : literalChar c =
          ['\\', 'u', '0', '0', hexDigit (c.toNat / 16), hexDigit (c.toNat % 16)] := by
        simp [literalChar, hne, hcontrol]
      rw [hunit, hliteral]
      exact units?_escaped (natural?_hexDigits c.toNat hcontrol)
    · have hunit : unitOf c = .char c := by simp [unitOf, hcontrol]
      have hliteral : literalChar c = [c] := by simp [literalChar, hne, hcontrol]
      rw [hunit, hliteral]
      exact units?_char hne.1 hne.2.1 hcontrol

theorem units?_flatMap_literalChar (s rest : List Char) :
    units? (s.flatMap literalChar ++ '"' :: rest) = some (s.map unitOf, rest) := by
  induction s with
  | nil => rw [List.flatMap_nil, List.nil_append, units?]; rfl
  | cons c s ih =>
    rw [List.flatMap_cons, List.append_assoc, units?_literalChar, ih]
    rfl

theorem charOfCode?_toNat (c : Char) : charOfCode? c.toNat = some c := by
  have hvalid : c.toNat.isValidChar := c.valid
  rw [charOfCode?, dif_pos hvalid]
  rfl

/-- The units of a text denote the text: a control is no half of a surrogate pair. -/
theorem decode?_map_unitOf (s : List Char) : decode? (s.map unitOf) = some s := by
  induction s with
  | nil => rfl
  | cons c s ih =>
    rw [List.map_cons, unitOf]
    split
    · rename_i h
      have hlow : ¬(0xD800 ≤ c.toNat ∧ c.toNat < 0xDC00) := by omega
      rw [decode?.eq_def]
      simp only [hlow, if_false, charOfCode?_toNat, ih]
      rfl
    · rw [decode?, ih]
      rfl

theorem literal_some (s : String) :
    literal (some s) = '"' :: (s.toList.flatMap literalChar ++ ['"']) := rfl

/-- **A literal is read as the text that it was written for.** -/
theorem string?_literal (s : String) (rest : List Char) :
    string? (s.toList.flatMap literalChar ++ '"' :: rest) = some (some s, rest) := by
  rw [string?, units?_flatMap_literalChar, Option.map_some]
  simp only [decode?_map_unitOf, Option.map_some, String.ofList_toList]

/-! ## Blanks -/

/-- Whether nothing but blanks stands between the parts of values. -/
structure Layout.IsSpacing (o : Layout) : Prop where
  newline : ∀ level, ∀ c ∈ o.newline level, isBlank c = true
  colon : ∃ w, o.colon = ':' :: w ∧ ∀ c ∈ w, isBlank c = true

theorem Layout.lines_isSpacing : lines.IsSpacing where
  newline level c hc := by
    rcases List.mem_cons.mp hc with rfl | hc
    · rfl
    · rw [List.eq_of_mem_replicate hc]
      rfl
  colon := ⟨[' '], rfl, by simp [isBlank]⟩

theorem Layout.compact_isSpacing : compact.IsSpacing where
  newline _ _ hc := nomatch hc
  colon := ⟨[], rfl, nofun⟩

theorem skipBlanks_append (hw : ∀ c ∈ w, isBlank c = true) (s : List Char) :
    skipBlanks (w ++ s) = skipBlanks s :=
  List.dropWhile_append_of_pos hw

theorem skipBlanks_cons (hc : isBlank c = false) (s : List Char) :
    skipBlanks (c :: s) = c :: s :=
  List.dropWhile_cons_of_neg (by simp [hc])

theorem readValue_append (hw : ∀ c ∈ w, isBlank c = true) (fuel : Nat) (s : List Char) :
    readValue fuel (w ++ s) = readValue fuel s := by
  cases fuel with
  | zero => rfl
  | succ fuel => simp only [readValue, skipBlanks_append hw]

theorem readValues_append (hw : ∀ c ∈ w, isBlank c = true) (fuel : Nat) (s : List Char) :
    readValues fuel (w ++ s) = readValues fuel s := by
  cases fuel with
  | zero => rfl
  | succ fuel => simp only [readValues, readValue_append hw]

theorem readMembers_append (hw : ∀ c ∈ w, isBlank c = true) (fuel : Nat) (s : List Char) :
    readMembers fuel (w ++ s) = readMembers fuel s := by
  cases fuel with
  | zero => rfl
  | succ fuel => simp only [readMembers, skipBlanks_append hw]

/-! ## Values -/

/-- Whether a value holds no numbers, and no strings and keys but texts. -/
inductive IsTextual : Json → Prop
  | null : IsTextual null
  | bool (b : Bool) : IsTextual (bool b)
  | text (s : String) : IsTextual (text s)
  | array {values : List Json} (h : ∀ v ∈ values, IsTextual v) : IsTextual (array values)
  | record {members : List (String × Json)} (h : ∀ m ∈ members, IsTextual m.2) :
    IsTextual (record members)

/-- Whether a value is read back from its text, at every level and whatever follows. -/
def IsReadBack (o : Layout) (v : Json) : Prop := ∀ level fuel rest,
  (v.write o level).length < fuel → readValue fuel (v.write o level ++ rest) = some (v, rest)

/-- A written value starts with a character that is no blank and does not close a list. -/
theorem IsTextual.exists_write_eq_cons {v : Json} (h : v.IsTextual) (o : Layout) (level : Nat) :
    ∃ c s, v.write o level = c :: s ∧ isBlank c = false ∧ c ≠ ']' := by
  cases h with
  | null => exact ⟨_, _, rfl, by decide, by decide⟩
  | bool b => cases b <;> exact ⟨_, _, rfl, by decide, by decide⟩
  | text s => exact ⟨_, _, rfl, by decide, by decide⟩
  | @array values _ =>
    cases values with
    | nil => exact ⟨_, _, rfl, by decide, by decide⟩
    | cons v vs => exact ⟨_, _, rfl, by decide, by decide⟩
  | @record members _ =>
    cases members with
    | nil => exact ⟨_, _, rfl, by decide, by decide⟩
    | cons m ms => exact ⟨_, _, rfl, by decide, by decide⟩

/-- A value of a list is read, and then further ones behind a comma. -/
theorem readValues_value {v : Json} (hv : IsReadBack o v) {level fuel : Nat}
    (hfuel : (v.write o level).length < fuel) (t : List Char) :
    readValues (fuel + 1) (v.write o level ++ t) =
      match skipBlanks t with
      | ',' :: rest => (readValues fuel rest).map fun (vs, rest) => (v :: vs, rest)
      | ']' :: rest => some ([v], rest)
      | _ => none := by
  rw [readValues, hv level fuel t hfuel]
  simp only [Option.bind_eq_bind, Option.bind_some, Option.map_eq_bind]
  rfl

/-- The values of a list are read if each of them is. -/
theorem readValues_writeValues (ho : o.IsSpacing) {vs : List Json} {v : Json}
    (hv : IsReadBack o v) (hvs : ∀ v ∈ vs, IsReadBack o v) (level fuel : Nat)
    (hfuel : (v.write o level).length + (writeValues o level vs).length + 1 < fuel)
    (hw : ∀ c ∈ w, isBlank c = true) (rest : List Char) :
    readValues fuel (v.write o level ++ (writeValues o level vs ++ (w ++ ']' :: rest))) =
      some (v :: vs, rest) := by
  obtain ⟨fuel, rfl⟩ := Nat.exists_eq_add_one.mpr (Nat.zero_lt_of_lt hfuel)
  rw [readValues_value hv (by omega)]
  induction vs generalizing v fuel with
  | nil =>
    rw [writeValues, List.nil_append, skipBlanks_append hw, skipBlanks_cons (by decide)]
    rfl
  | cons v' vs ih =>
    obtain ⟨hv', hvs⟩ := List.forall_mem_cons.mp hvs
    have htext : ∀ t, writeValues o level (v' :: vs) ++ t =
        ',' :: (o.newline level ++ (v'.write o level ++ (writeValues o level vs ++ t))) := by
      intro t
      simp only [writeValues, List.cons_append, List.append_assoc]
    simp only [writeValues, List.length_cons, List.length_append] at hfuel
    obtain ⟨fuel, rfl⟩ : ∃ k, fuel = k + 1 := Nat.exists_eq_add_one.mpr (by omega)
    rw [htext, skipBlanks_cons (by decide)]
    simp only [readValues_append (ho.newline level)]
    rw [readValues_value hv' (by omega), ih hv' hvs fuel (by omega)]
    rfl

/-- A member is read, and then further ones behind a comma. -/
theorem readMembers_member (ho : o.IsSpacing) {v : Json} (hv : IsReadBack o v) {level fuel : Nat}
    (hfuel : (v.write o level).length < fuel) (k : String) (t : List Char) :
    readMembers (fuel + 1) (literal (some k) ++ (o.colon ++ (v.write o level ++ t))) =
      match skipBlanks t with
      | ',' :: rest => (readMembers fuel rest).map fun (ms, rest) => ((some k, v) :: ms, rest)
      | '\x7d' :: rest => some ([(some k, v)], rest)
      | _ => none := by
  obtain ⟨blanks, hcolon, hblanks⟩ := ho.colon
  have htext : literal (some k) ++ (o.colon ++ (v.write o level ++ t)) = '"' ::
      (k.toList.flatMap literalChar ++ '"' :: ':' :: (blanks ++ (v.write o level ++ t))) := by
    rw [literal_some, hcolon, List.cons_append, List.append_assoc]
    rfl
  rw [htext, readMembers, skipBlanks_cons (by decide)]
  simp only [string?_literal, Option.bind_eq_bind, Option.bind_some]
  rw [skipBlanks_cons (by decide)]
  simp only [readValue_append hblanks, hv level fuel t hfuel, Option.bind_some,
    Option.map_eq_bind]
  rfl

/-- The members of a record. -/
def named (ms : List (String × Json)) : List (Option String × Json) :=
  ms.map fun (k, v) => (some k, v)

theorem named_cons (k : String) (v : Json) (ms : List (String × Json)) :
    named ((k, v) :: ms) = (some k, v) :: named ms := rfl

/-- The members of a record are read if each of their values is. -/
theorem readMembers_writeMembers (ho : o.IsSpacing) {ms : List (String × Json)}
    {v : Json} (hv : IsReadBack o v) (hms : ∀ m ∈ ms, IsReadBack o m.2) (level fuel : Nat)
    (hfuel : (v.write o level).length + (writeMembers o level (named ms)).length + 1 < fuel)
    (hw : ∀ c ∈ w, isBlank c = true) (k : String) (rest : List Char) :
    readMembers fuel (literal (some k) ++ (o.colon ++ (v.write o level ++
        (writeMembers o level (named ms) ++ (w ++ '\x7d' :: rest))))) =
      some ((some k, v) :: named ms, rest) := by
  obtain ⟨fuel, rfl⟩ := Nat.exists_eq_add_one.mpr (Nat.zero_lt_of_lt hfuel)
  rw [readMembers_member ho hv (by omega)]
  induction ms generalizing k v fuel with
  | nil =>
    rw [named, List.map_nil, writeMembers, List.nil_append, skipBlanks_append hw,
      skipBlanks_cons (by decide)]
    rfl
  | cons m ms ih =>
    obtain ⟨k', v'⟩ := m
    obtain ⟨(hv' : IsReadBack o v'), hms⟩ := List.forall_mem_cons.mp hms
    have htext : ∀ t, writeMembers o level ((some k', v') :: named ms) ++ t =
        ',' :: (o.newline level ++ (literal (some k') ++ (o.colon ++ (v'.write o level ++
          (writeMembers o level (named ms) ++ t))))) := by
      intro t
      simp only [writeMembers, List.cons_append, List.append_assoc]
    simp only [named_cons, writeMembers, List.length_cons, List.length_append] at hfuel
    obtain ⟨fuel, rfl⟩ : ∃ k, fuel = k + 1 := Nat.exists_eq_add_one.mpr (by omega)
    rw [named_cons, htext, skipBlanks_cons (by decide)]
    simp only [readMembers_append (ho.newline level)]
    rw [readMembers_member ho hv' (by omega), ih hv' hms k' fuel (by omega)]
    rfl

theorem isReadBack_text (o : Layout) (s : String) : IsReadBack o (text s) := by
  intro level fuel rest hfuel
  obtain ⟨fuel, rfl⟩ := Nat.exists_eq_add_one.mpr (Nat.zero_lt_of_lt hfuel)
  show readValue (fuel + 1) (literal (some s) ++ rest) = _
  rw [literal_some, List.cons_append, List.append_assoc, readValue, skipBlanks_cons (by decide)]
  show (string? (s.toList.flatMap literalChar ++ '"' :: rest)).map _ = _
  rw [string?_literal]
  rfl

theorem isReadBack_array (ho : o.IsSpacing) {values : List Json}
    (htextual : ∀ v ∈ values, v.IsTextual) (h : ∀ v ∈ values, IsReadBack o v) :
    IsReadBack o (array values) := by
  intro level fuel rest hfuel
  obtain ⟨fuel, rfl⟩ := Nat.exists_eq_add_one.mpr (Nat.zero_lt_of_lt hfuel)
  cases values with
  | nil => rfl
  | cons v vs =>
    obtain ⟨hv, hvs⟩ := List.forall_mem_cons.mp h
    obtain ⟨c, s, hhead, hblank, hclose⟩ :=
      (htextual v List.mem_cons_self).exists_write_eq_cons o (level + 1)
    have htext : (array (v :: vs)).write o level ++ rest = '[' :: (o.newline (level + 1) ++
        (v.write o (level + 1) ++ (writeValues o (level + 1) vs ++
          (o.newline level ++ ']' :: rest)))) := by
      simp only [write, List.cons_append, List.append_assoc, List.nil_append]
    simp only [write, List.length_append, List.length_cons] at hfuel
    have hvalues := readValues_writeValues ho hv hvs (level + 1) fuel (by omega)
      (ho.newline level) rest
    rw [htext, readValue, skipBlanks_cons (by decide)]
    simp only [skipBlanks_append (ho.newline (level + 1))]
    rw [hhead, List.cons_append] at hvalues ⊢
    rw [skipBlanks_cons hblank]
    simp [hvalues, hclose]

theorem isReadBack_record (ho : o.IsSpacing) {members : List (String × Json)}
    (h : ∀ m ∈ members, IsReadBack o m.2) : IsReadBack o (record members) := by
  intro level fuel rest hfuel
  obtain ⟨fuel, rfl⟩ := Nat.exists_eq_add_one.mpr (Nat.zero_lt_of_lt hfuel)
  cases members with
  | nil => rfl
  | cons m ms =>
    obtain ⟨k, v⟩ := m
    obtain ⟨(hv : IsReadBack o v), hms⟩ := List.forall_mem_cons.mp h
    have htext : (record ((k, v) :: ms)).write o level ++ rest =
        '\x7b' :: (o.newline (level + 1) ++ (literal (some k) ++ (o.colon ++
          (v.write o (level + 1) ++ (writeMembers o (level + 1) (named ms) ++
            (o.newline level ++ '\x7d' :: rest)))))) := by
      show (object ((some k, v) :: named ms)).write o level ++ rest = _
      simp only [write, List.cons_append, List.append_assoc, List.nil_append]
    have hlength := congrArg List.length htext
    simp only [List.length_append, List.length_cons] at hlength
    have hmembers := readMembers_writeMembers ho hv hms (level + 1) fuel (by omega)
      (ho.newline level) k rest
    rw [htext, readValue, skipBlanks_cons (by decide)]
    simp only [skipBlanks_append (ho.newline (level + 1))]
    rw [literal_some, List.cons_append] at hmembers ⊢
    rw [skipBlanks_cons (by decide)]
    show (readMembers fuel _).map _ = _
    rw [hmembers]
    rfl

/-- **A value is read back from its text**, and what follows is left. -/
theorem IsTextual.isReadBack (ho : o.IsSpacing) {v : Json} (h : v.IsTextual) : IsReadBack o v := by
  induction h with
  | null =>
    intro level fuel rest hfuel
    obtain ⟨fuel, rfl⟩ := Nat.exists_eq_add_one.mpr (Nat.zero_lt_of_lt hfuel)
    rfl
  | bool b =>
    intro level fuel rest hfuel
    obtain ⟨fuel, rfl⟩ := Nat.exists_eq_add_one.mpr (Nat.zero_lt_of_lt hfuel)
    cases b <;> rfl
  | text s => exact isReadBack_text o s
  | array h ih => exact isReadBack_array ho h ih
  | record h ih => exact isReadBack_record ho ih

/-- A text that is nothing but a written value is read as the value. -/
theorem IsTextual.read?_write (ho : o.IsSpacing) {v : Json} (h : v.IsTextual) (level : Nat) :
    read? (String.ofList (v.write o level)) = some v := by
  have hread := h.isReadBack ho level (2 * (v.write o level).length + 2) [] (by omega)
  rw [List.append_nil] at hread
  rw [read?, String.toList_ofList, hread]
  rfl

theorem IsTextual.read?_pretty {v : Json} (h : v.IsTextual) : read? v.pretty = some v :=
  h.read?_write Layout.lines_isSpacing 0

theorem IsTextual.read?_compact {v : Json} (h : v.IsTextual) : read? v.compact = some v :=
  h.read?_write Layout.compact_isSpacing 0

/-! ## Dictionaries -/

/-- What is read back one by one is read back together. -/
theorem mapM_map_eq_some {α β : Type} {f : α → β} {g : β → Option α}
    (h : ∀ a, g (f a) = some a) (l : List α) : (l.map f).mapM g = some l := by
  have hread : g ∘ f = fun a => pure a := funext h
  rw [List.mapM_map, hread, List.mapM_pure, List.map_id']
  rfl

theorem ofDict_isTextual (d : Dict String) : (ofDict d).IsTextual := by
  refine .record fun m hm => ?_
  obtain ⟨p, -, rfl⟩ := List.mem_map.mp hm
  exact .text p.2

/-- **A dictionary is read back from its members.** -/
theorem dict?_ofDict (d : Dict String) : (ofDict d).dict? = some d := by
  have hpairs := mapM_map_eq_some (f := fun p : String × String => (some p.1, text p.2))
    (g := fun m => do return (← m.1, ← m.2.text?)) (fun _ => rfl) d.entries
  rw [ofDict, record, List.map_map]
  exact (congrArg (·.bind fun pairs => some (Dict.ofList pairs)) hpairs).trans
    (congrArg some (Dict.empty_overlay d))

end PackQuery.Json
