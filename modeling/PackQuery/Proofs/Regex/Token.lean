import Mathlib.Data.List.TakeDrop
import Mathlib.Data.List.TakeWhile
import Mathlib.Tactic.SplitIfs
import Mathlib.Tactic.Tauto
import PackQuery.Regex.Token
import PackQuery.Proofs.Text.Cut

/-!
# Tokens around a closing bracket

No escape goes on behind a closing bracket: the bracket is the character that is escaped, or it
makes the escape invalid. In the braces of a property it may stand for a while, but no property
has a name with a bracket (`property?_eq_none`).

So the tokens of a text that ends in a closing bracket do not depend on what stands behind it
(`readFrom_bracket_append`).
-/

namespace PackQuery

/-! ## Names with a bracket -/

namespace Unicode

theorem mem_foldName {s : List Char} (h : ']' ∈ s) : ']' ∈ foldName s := by
  have hkept : ']' ∈ s.filter fun c => c.toNat < 128 && c != ' ' && c != '_' && c != '-' :=
    List.mem_filter.mpr ⟨h, by decide⟩
  exact List.mem_map.mpr ⟨']', hkept, by decide⟩

theorem mem_looseName {s : List Char} (h : ']' ∈ s) : ']' ∈ (looseName s).toList := by
  unfold looseName
  split
  · rename_i i t rest
    split
    · rename_i his
      have hrest : ']' ∈ rest := by
        rw [List.mem_cons, List.mem_cons] at h
        rcases h with rfl | rfl | h
        · exact absurd ((Bool.and_eq_true _ _).mp his).1 (by decide)
        · exact absurd ((Bool.and_eq_true _ _).mp his).2 (by decide)
        · exact h
      have hmem := mem_foldName hrest
      have hne : foldName rest ≠ ['c'] := by
        intro heq
        rw [heq] at hmem
        exact absurd hmem (by decide)
      simp [hne, hmem]
    · simp [mem_foldName h]
  · simp [mem_foldName h]

/-- Whether no name of a list has a bracket, as its bytes tell. -/
def bracketFree (names : List String) : Bool :=
  names.all fun n => !n.toByteArray.data.toList.contains (']'.val.toUInt8)

theorem not_mem_of_bracketFree {names : List String} (hnames : bracketFree names = true)
    {name : String} (h : name ∈ names) : ']' ∉ name.toList := by
  intro hmem
  have hbyte := Text.byte_mem_of_mem (by simp [Char.utf8Size]) hmem
  have hfree := List.all_eq_true.mp hnames name h
  rw [Bool.not_eq_true', List.contains_eq_mem, decide_eq_false_iff_not] at hfree
  exact hfree hbyte

theorem not_contains {names : List String} (hnames : bracketFree names = true)
    {name : String} (h : ']' ∈ name.toList) : ¬names.contains name = true :=
  fun hmem => not_mem_of_bracketFree hnames (List.contains_iff_mem.mp hmem) h

theorem named?_eq_none (sets : List (List String × CharSet))
    (hsets : (sets.all fun p => bracketFree p.1) = true) {name : String}
    (h : ']' ∈ name.toList) : named? sets name = none := by
  rw [named?, Option.map_eq_none_iff, List.find?_eq_none]
  exact fun p hp => not_contains (List.all_eq_true.mp hsets p hp) h

theorem script?_eq_none {name : String} (h : ']' ∈ name.toList) : script? name = none := by
  have hscripts : (scripts.all fun p => bracketFree p.1) = true := by decide +kernel
  rw [script?, List.find?_eq_none]
  exact fun p hp => not_contains (List.all_eq_true.mp hscripts p hp) h

theorem isVersion_eq_false {name version : String} (hversion : ']' ∉ version.toList)
    (h : ']' ∈ name.toList) : isVersion name version = false := by
  rw [isVersion, Bool.or_eq_false_iff, beq_eq_false_iff_ne, beq_eq_false_iff_ne]
  constructor
  · rintro rfl
    exact hversion h
  · intro heq
    rw [heq, List.mem_cons, List.mem_filter] at h
    rcases h with h | h
    · exact absurd h (by decide)
    · exact hversion h.1

theorem knownIn?_eq_none {name : String} (h : ']' ∈ name.toList) : knownIn? name = none := by
  have hages : bracketFree (ages.map (·.1)) = true := by decide +kernel
  have hunknown : ∀ a ∈ ages, (!isVersion name a.1) = true := by
    intro a ha
    have hfree := not_mem_of_bracketFree hages (List.mem_map_of_mem ha)
    rw [isVersion_eq_false hfree h, Bool.not_false]
  rw [knownIn?, List.span_eq_takeWhile_dropWhile, List.dropWhile_eq_nil_iff.mpr hunknown]

theorem ofName?_eq_none {s : List Char} (h : ']' ∈ s) : ofName? s = none := by
  have hname := mem_looseName h
  rw [ofName?, named?_eq_none properties (by decide +kernel) hname,
    named?_eq_none categories (by decide +kernel) hname, ofScript?, script?_eq_none hname]
  rfl

theorem ofValue?_eq_none_of_property {property : List Char} (h : ']' ∈ property)
    (value : List Char) : ofValue? property value = none := by
  have hname := mem_looseName h
  have hage : (looseName property == "age") = false := by
    rw [beq_eq_false_iff_ne]
    intro heq
    rw [heq] at hname
    exact absurd hname (by decide)
  unfold ofValue?
  dsimp only
  rw [hage, if_neg Bool.false_ne_true]
  split_ifs with hin hin hin hin hin hin
  case neg => rfl
  all_goals exact absurd hin (not_contains (by decide) hname)

theorem ofValue?_eq_none_of_value (property : List Char) {value : List Char} (h : ']' ∈ value) :
    ofValue? property value = none := by
  have hname := mem_looseName h
  simp only [ofValue?, named?_eq_none categories (by decide +kernel) hname,
    named?_eq_none characterClasses (by decide +kernel) hname,
    named?_eq_none wordClasses (by decide +kernel) hname,
    named?_eq_none sentenceClasses (by decide +kernel) hname, ofScript?, usedInScript?,
    script?_eq_none hname, knownIn?_eq_none hname, Option.map_none, ite_self]

end Unicode

namespace Regex

/-- No property has a name or a value with a bracket. -/
theorem property?_eq_none {text : List Char} (h : ']' ∈ text) : property? text = none := by
  have hcut : ∀ {needle before after}, ']' ∉ needle →
      Chars.cut? needle text = some (before, after) → ']' ∈ before ∨ ']' ∈ after := by
    intro needle before after hneedle hcut
    rw [Chars.cut?_eq_some hcut, List.mem_append, List.mem_append] at h
    tauto
  have hparts : ∀ {name value}, nameAndValue? text = some (name, value) →
      ']' ∈ name ∨ ']' ∈ value := by
    intro name value hparts
    simp only [nameAndValue?, Option.orElse_eq_orElse, Option.orElse_eq_or,
      Option.or_eq_some_iff] at hparts
    rcases hparts with hparts | ⟨-, hparts | ⟨-, hparts⟩⟩
    all_goals exact hcut (by decide) hparts
  unfold property?
  split
  · rename_i name value hsome
    rcases hparts hsome with hname | hvalue
    · exact Unicode.ofValue?_eq_none_of_property hname value
    · exact Unicode.ofValue?_eq_none_of_value name hvalue
  · exact Unicode.ofName?_eq_none h

/-! ## Tokens -/

namespace Token

theorem readFrom_cons (e : Escape) (c : Char) (s : List Char) :
    readFrom e (c :: s) =
      match step e c with
      | some (.inl t) => (readFrom .outside s).map (t :: ·)
      | some (.inr e) => readFrom e s
      | none => none := by
  cases e <;> rfl

theorem readFrom_propertyName {negated : Bool} {name : List Char} (h : ']' ∈ name)
    (s : List Char) : readFrom (.propertyName negated name) s = none := by
  induction s generalizing name with
  | nil => rfl
  | cons c s ih =>
    rw [readFrom_cons, step]
    by_cases hc : c = '\x7d'
    · rw [if_pos (beq_iff_eq.mpr hc), property?_eq_none (List.mem_reverse.mpr h)]
      rfl
    · rw [if_neg (by simpa using hc)]
      exact ih (List.mem_cons_of_mem c h)

/-- **A closing bracket ends a token,** it is in a name, or it makes the escape invalid. -/
theorem step_bracket (e : Escape) :
    (∃ t, step e ']' = some (.inl t) ∧ t.char? = some ']') ∨
      (∃ negated name, step e ']' = some (.inr (.propertyName negated name)) ∧ ']' ∈ name) ∨
      step e ']' = none := by
  have hdigit : ∀ v, pushHex v ']' = none := fun _ => rfl
  cases e with
  | outside => exact Or.inl ⟨raw ']', rfl, rfl⟩
  | letter => exact Or.inl ⟨literal ']', rfl, rfl⟩
  | hexStart n => exact Or.inr (Or.inr (by simp [step, hdigit]))
  | hex left v => exact Or.inr (Or.inr (by simp [step, hdigit]))
  | braced v => exact Or.inr (Or.inr (by simp [step, hdigit]))
  | property negated =>
    refine Or.inr (Or.inr ?_)
    rw [step, if_neg (by decide), if_neg (by decide), Unicode.ofName?_eq_none (by decide)]
    rfl
  | propertyName negated name =>
    refine Or.inr (Or.inl ⟨negated, ']' :: name, ?_, List.mem_cons_self⟩)
    rw [step, if_neg (by decide)]

/-- **Tokens up to a closing bracket** do not depend on what stands behind it. -/
theorem readFrom_bracket_append (e : Escape) (s rest : List Char) :
    readFrom e (s ++ ']' :: rest) =
      (readFrom e (s ++ [']'])).bind fun ts => (readFrom .outside rest).map (ts ++ ·) := by
  induction s generalizing e with
  | nil =>
    rw [List.nil_append, List.nil_append, readFrom_cons, readFrom_cons]
    rcases step_bracket e with ⟨t, hstep, -⟩ | ⟨negated, name, hstep, hname⟩ | hstep
    · rw [hstep]
      rfl
    · rw [hstep]
      exact readFrom_propertyName hname rest
    · rw [hstep]
      rfl
  | cons c s ih =>
    rw [List.cons_append, List.cons_append, readFrom_cons, readFrom_cons]
    cases step e c with
    | none => rfl
    | some next =>
      cases next with
      | inl t => simp [ih, Option.map_bind, Option.bind_map, Function.comp_def]
      | inr e' => exact ih e'

/-- Only a character outside escapes is a token as it stands. -/
theorem eq_of_step_raw {e : Escape} {c d : Char} (h : step e d = some (.inl (raw c))) :
    c = d := by
  cases e with
  | outside =>
    rw [step] at h
    split_ifs at h
    · cases h
    · exact (raw.inj (Sum.inl.inj (Option.some.inj h))).symm
  | letter =>
    rw [step, afterBackslash] at h
    split at h
    · cases h
    · cases h
    · cases h
    · split_ifs at h
      all_goals cases h
  | hexStart n =>
    rw [step] at h
    split_ifs at h
    · cases h
    · simp at h
  | hex left v =>
    simp only [step, Option.bind_eq_bind, Option.bind_eq_some_iff] at h
    obtain ⟨w, -, h⟩ := h
    split_ifs at h
    · obtain ⟨x, -, hx⟩ := Option.bind_eq_some_iff.mp h
      cases hx
    · cases h
  | braced v =>
    rw [step] at h
    split_ifs at h
    · simp [Option.bind_eq_some_iff] at h
    · simp at h
  | property negated =>
    rw [step] at h
    split_ifs at h
    · cases h
    · simp at h
  | propertyName negated name =>
    rw [step] at h
    split_ifs at h
    · simp at h
    · cases h

theorem raw_mem_of_readFrom {e : Escape} {s : List Char} {ts : List Token} {c : Char}
    (h : readFrom e s = some ts) (hc : raw c ∈ ts) : c ∈ s := by
  induction s generalizing e ts with
  | nil =>
    cases e with
    | outside =>
      cases h
      cases hc
    | _ => cases h
  | cons d s ih =>
    rw [readFrom_cons] at h
    cases hstep : step e d with
    | none => simp [hstep] at h
    | some next =>
      cases next with
      | inl t =>
        rw [hstep] at h
        obtain ⟨ts', hts, rfl⟩ := Option.map_eq_some_iff.mp h
        rcases List.mem_cons.mp hc with rfl | hc
        · exact eq_of_step_raw hstep ▸ List.mem_cons_self
        · exact List.mem_cons_of_mem d (ih hts hc)
      | inr e' =>
        rw [hstep] at h
        exact List.mem_cons_of_mem d (ih h hc)

end Token

end Regex

end PackQuery
