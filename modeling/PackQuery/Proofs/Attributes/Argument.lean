import PackQuery.Attributes.Assignment
import PackQuery.Proofs.Attributes.Change
import PackQuery.Proofs.Text.Blank
import PackQuery.Proofs.Text.Cut

/-!
# Attribute sets from arguments

What arguments `name=value` say, and which attribute set they give.

**One argument** (`Assigns`). The first equals sign parts the name from the value. The name is
trimmed and must not be empty, and the value is kept as it is, further equals signs included. A
text that cannot be parted like this is no argument (`isAssignment_iff`).

**Some arguments** (`readSet_eq_ok_iff`). Reading stores one value after another and stops at the
first text that is no argument. A later value replaces an earlier one, so an attribute has the
value of the last argument with its name (`IsLastValue`).

**There and back** (`readSet_map_ofPair_iff`). The names of a set are different, so each of its
pairs is the last one with its name, in whatever order they are written. What has to be asked of the
names is just that they can be read: they are plain names, and other ones never come out of an
argument.
-/

namespace PackQuery.Assignment

open AttributeSet

variable {text name value : String} {texts rest : List String} {s s' : AttributeSet}

/-! ## One argument -/

/-- Whether a text gives a value to an attribute: an equals sign stands between the value and a name
that may have blank characters around it. -/
def Assigns (text name value : String) : Prop :=
  ∃ raw, text = raw ++ "=" ++ value ∧ '=' ∉ raw.toList ∧ name = Text.trim raw ∧ name ≠ ""

/-- Whether a text is an argument. -/
def IsAssignment (text : String) : Prop := ∃ name value, Assigns text name value

theorem trim_eq_empty_iff {raw : String} :
    Text.trim raw = "" ↔ ∀ c ∈ raw.toList, Text.isBlank c = true := by
  rw [← Text.trimChars_eq_nil_iff, Text.trim, ← String.toList_inj, String.toList_ofList]
  rfl

theorem toList_append_equals (raw value : String) :
    (raw ++ "=" ++ value).toList = raw.toList ++ '=' :: value.toList :=
  Text.toList_append_separator rfl raw value

theorem exists_append_of_mem (h : '=' ∈ text.toList) :
    ∃ raw value, text = raw ++ "=" ++ value ∧ '=' ∉ raw.toList := by
  obtain ⟨front, back, htext, hfront⟩ := List.eq_append_cons_of_mem h
  refine ⟨String.ofList front, String.ofList back, ?_, by rwa [String.toList_ofList]⟩
  rw [← String.toList_inj, htext, toList_append_equals, String.toList_ofList,
    String.toList_ofList]

theorem read_append {raw : String} (h : '=' ∉ raw.toList) (value : String) :
    read (raw ++ "=" ++ value) =
      if Text.trim raw = "" then .error (.argument (raw ++ "=" ++ value))
      else .ok (Text.trim raw, value) := by
  have hempty : (Text.trimChars raw.toList).isEmpty = true ↔ Text.trim raw = "" := by
    rw [List.isEmpty_iff, Text.trimChars_eq_nil_iff, trim_eq_empty_iff]
  rw [read, toList_append_equals, Chars.before_append_cons h, Chars.after?_append_cons h]
  simp only [hempty, String.ofList_toList]
  rfl

theorem read_of_not_mem (h : '=' ∉ text.toList) : read text = .error (.argument text) := by
  rw [read, Chars.after?_of_not_mem h]

/-- **What an argument says.** -/
theorem read_eq_ok_iff : read text = .ok (name, value) ↔ Assigns text name value := by
  constructor
  · intro h
    by_cases hmem : '=' ∈ text.toList
    · obtain ⟨raw, value', rfl, hraw⟩ := exists_append_of_mem hmem
      rw [read_append hraw] at h
      split at h
      · cases h
      · rename_i hname
        cases h
        exact ⟨raw, rfl, hraw, rfl, hname⟩
    · rw [read_of_not_mem hmem] at h
      cases h
  · rintro ⟨raw, rfl, hraw, rfl, hname⟩
    rw [read_append hraw, if_neg hname]

theorem Assigns.unique {name' value' : String} (h : Assigns text name value)
    (h' : Assigns text name' value') : name = name' ∧ value = value' := by
  have heq := (read_eq_ok_iff.mpr h).symm.trans (read_eq_ok_iff.mpr h')
  exact Prod.ext_iff.mp (Except.ok.inj heq)

/-- A text is an argument if there is an equals sign in it and something in front of the first
one. -/
theorem isAssignment_iff : IsAssignment text ↔
    ¬('=' ∉ text.toList ∨ ∀ c ∈ (Text.before '=' text).toList, Text.isBlank c = true) := by
  rw [not_or, not_not]
  constructor
  · rintro ⟨name, value, raw, rfl, hraw, rfl, hname⟩
    refine ⟨by simp, ?_⟩
    rwa [Text.before_append_separator rfl hraw, ← trim_eq_empty_iff]
  · rintro ⟨hmem, hblank⟩
    obtain ⟨raw, value, rfl, hraw⟩ := exists_append_of_mem hmem
    rw [Text.before_append_separator rfl hraw, ← trim_eq_empty_iff] at hblank
    exact ⟨_, value, raw, rfl, hraw, rfl, hblank⟩

theorem read_of_not_isAssignment (h : ¬IsAssignment text) :
    read text = .error (.argument text) := by
  by_cases hmem : '=' ∈ text.toList
  · obtain ⟨raw, value, rfl, hraw⟩ := exists_append_of_mem hmem
    have hname : Text.trim raw = "" := by
      by_contra hname
      exact h ⟨_, value, raw, rfl, hraw, rfl, hname⟩
    rw [read_append hraw, if_pos hname]
  · exact read_of_not_mem hmem

/-! ## Some arguments -/

/-- Whether a value is the one that the last argument for an attribute gives. -/
def IsLastValue (texts : List String) (name value : String) : Prop :=
  ∃ front text back, texts = front ++ text :: back ∧ Assigns text name value ∧
    ∀ t ∈ back, ∀ v, ¬Assigns t name v

theorem not_isLastValue_nil : ¬IsLastValue [] name value := by
  rintro ⟨front, text, back, h, -⟩
  simp at h

theorem isLastValue_cons_iff : IsLastValue (text :: rest) name value ↔
    IsLastValue rest name value ∨
      Assigns text name value ∧ ∀ t ∈ rest, ∀ v, ¬Assigns t name v := by
  constructor
  · rintro ⟨front, text', back, h, hassigns, hback⟩
    cases front with
    | nil =>
      injection h with htext hrest
      exact Or.inr ⟨htext ▸ hassigns, hrest ▸ hback⟩
    | cons t front =>
      injection h with htext hrest
      exact Or.inl ⟨front, text', back, hrest, hassigns, hback⟩
  · rintro (⟨front, text', back, rfl, hassigns, hback⟩ | ⟨hassigns, hback⟩)
    · exact ⟨text :: front, text', back, rfl, hassigns, hback⟩
    · exact ⟨[], text, rest, rfl, hassigns, hback⟩

/-- **One argument more in front.** Its value is kept unless a later argument has its name. -/
theorem isLastValue_cons_or_iff (h : Assigns text name value) (name' value' : String) :
    (IsLastValue (text :: rest) name' value' ∨
        s.get? name' = some value' ∧ ∀ t ∈ text :: rest, ∀ v, ¬Assigns t name' v) ↔
      IsLastValue rest name' value' ∨
        (s.set name value).1.get? name' = some value' ∧ ∀ t ∈ rest, ∀ v, ¬Assigns t name' v := by
  obtain ⟨raw, -, -, -, hne⟩ := id h
  rw [isLastValue_cons_iff, List.forall_mem_cons, get?_set s hne, or_assoc]
  refine or_congr_right ?_
  split
  · rename_i hname
    subst hname
    have hvalue : Assigns text name' value' ↔ some value = some value' :=
      ⟨fun h' => congrArg some (h.unique h').2, fun he => Option.some.inj he ▸ h⟩
    have hold : ¬∀ v, ¬Assigns text name' v := fun hnone => hnone value h
    simp only [hvalue, hold, false_and, and_false, or_false]
  · rename_i hname
    have hother : ∀ v, ¬Assigns text name' v := fun v h' => hname (h.unique h').1.symm
    simp only [hother value', false_and, false_or, hother, not_false_iff, implies_true, true_and]

/-- **What reading stores.** The attributes that were there before count where no argument has
their names. -/
theorem go_eq_ok (h : readSet.go s texts = .ok s') :
    s'.tag = s.tag ∧ (∀ text ∈ texts, IsAssignment text) ∧ ∀ name value,
      s'.get? name = some value ↔ IsLastValue texts name value ∨
        s.get? name = some value ∧ ∀ t ∈ texts, ∀ v, ¬Assigns t name v := by
  induction texts generalizing s with
  | nil =>
    cases h
    refine ⟨rfl, nofun, fun name value => ?_⟩
    exact ⟨fun hget => Or.inr ⟨hget, nofun⟩,
      fun hget => hget.elim (absurd · not_isLastValue_nil) (·.1)⟩
  | cons text rest ih =>
    rw [readSet.go] at h
    cases hread : read text with
    | error failure =>
      rw [hread] at h
      cases h
    | ok p =>
      obtain ⟨name, value⟩ := p
      rw [hread] at h
      have hassigns := read_eq_ok_iff.mp hread
      obtain ⟨htag, hall, hget⟩ := ih h
      refine ⟨htag.trans (reports_set s name value).tag_eq,
        List.forall_mem_cons.mpr ⟨⟨name, value, hassigns⟩, hall⟩, fun name' value' => ?_⟩
      exact (hget name' value').trans (isLastValue_cons_or_iff hassigns name' value').symm

theorem exists_go (s : AttributeSet) (h : ∀ text ∈ texts, IsAssignment text) :
    ∃ s', readSet.go s texts = .ok s' := by
  induction texts generalizing s with
  | nil => exact ⟨s, rfl⟩
  | cons text rest ih =>
    obtain ⟨⟨name, value, hassigns⟩, hrest⟩ := List.forall_mem_cons.mp h
    rw [readSet.go, read_eq_ok_iff.mpr hassigns]
    exact ih _ hrest

/-- **The set of some arguments**: each attribute has the value of the last one with its name. -/
theorem readSet_eq_ok_iff {tag : Option String} : readSet tag texts = .ok s ↔
    s.tag = tag ∧ (∀ text ∈ texts, IsAssignment text) ∧
      ∀ name value, s.get? name = some value ↔ IsLastValue texts name value := by
  have hread : ∀ {s'}, readSet.go { tag := tag } texts = .ok s' →
      s'.tag = tag ∧ (∀ text ∈ texts, IsAssignment text) ∧
        ∀ name value, s'.get? name = some value ↔ IsLastValue texts name value := by
    intro s' h
    obtain ⟨htag, hall, hget⟩ := go_eq_ok h
    exact ⟨htag, hall, fun name value => (hget name value).trans (or_iff_left (nomatch ·.1))⟩
  constructor
  · exact hread
  · rintro ⟨htag, hall, hget⟩
    obtain ⟨s', hs'⟩ := exists_go { tag := tag } hall
    obtain ⟨htag', -, hget'⟩ := hread hs'
    rw [readSet, hs', eq_of_get?_eq (htag'.trans htag.symm) fun name => ?_]
    exact Option.ext fun value => (hget' name value).trans (hget name value).symm

theorem go_eq_error_iff {e : String × Failure} : readSet.go s texts = .error e ↔
    ∃ front text back, texts = front ++ text :: back ∧ (∀ t ∈ front, IsAssignment t) ∧
      ¬IsAssignment text ∧ e = (text, .argument text) := by
  induction texts generalizing s with
  | nil =>
    refine iff_of_false nofun ?_
    rintro ⟨front, text, back, h, -⟩
    simp at h
  | cons text rest ih =>
    by_cases htext : IsAssignment text
    · obtain ⟨name, value, hassigns⟩ := id htext
      rw [readSet.go, read_eq_ok_iff.mpr hassigns]
      refine ih.trans ⟨?_, ?_⟩
      · rintro ⟨front, text', back, rfl, hfront, hrest⟩
        exact ⟨text :: front, text', back, rfl, List.forall_mem_cons.mpr ⟨htext, hfront⟩, hrest⟩
      · rintro ⟨front, text', back, h, hfront, hnot, he⟩
        cases front with
        | nil =>
          injection h with hhead
          exact absurd (hhead ▸ htext) hnot
        | cons t front =>
          injection h with hhead hrest
          exact ⟨front, text', back, hrest, (List.forall_mem_cons.mp hfront).2, hnot, he⟩
    · rw [readSet.go, read_of_not_isAssignment htext]
      constructor
      · intro h
        cases h
        exact ⟨[], text, rest, rfl, nofun, htext, rfl⟩
      · rintro ⟨front, text', back, h, hfront, hnot, rfl⟩
        cases front with
        | nil =>
          injection h with hhead
          rw [hhead]
        | cons t front =>
          injection h with hhead
          exact absurd (hfront t List.mem_cons_self) (hhead ▸ htext)

/-- **Reading fails if some text is no argument**, and only then. -/
theorem exists_readSet_eq_error_iff {tag : Option String} :
    (∃ e, readSet tag texts = .error e) ↔ ∃ text ∈ texts, ¬IsAssignment text := by
  constructor
  · rintro ⟨e, h⟩
    obtain ⟨front, text, back, rfl, -, hnot, -⟩ := go_eq_error_iff.mp h
    exact ⟨text, by simp, hnot⟩
  · rintro ⟨text, hmem, hnot⟩
    cases h : readSet tag texts with
    | error e => exact ⟨e, rfl⟩
    | ok s => exact absurd ((readSet_eq_ok_iff.mp h).2.1 text hmem) hnot

/-! ## There and back -/

/-- Whether a name is read from an argument as it stands. -/
structure IsPlainName (name : String) : Prop where
  ne_empty : name ≠ ""
  isTrimmed : Text.IsTrimmed name.toList
  not_mem : '=' ∉ name.toList

instance (name : String) : Decidable (IsPlainName name) :=
  decidable_of_iff (name ≠ "" ∧ Text.IsTrimmed name.toList ∧ '=' ∉ name.toList)
    ⟨fun h => ⟨h.1, h.2.1, h.2.2⟩, fun h => ⟨h.ne_empty, h.isTrimmed, h.not_mem⟩⟩

/-- The argument for a name and its value. -/
def ofPair (p : String × String) : String := p.1 ++ "=" ++ p.2

/-- **Only plain names come out of arguments.** -/
theorem Assigns.isPlainName (h : Assigns text name value) : IsPlainName name := by
  obtain ⟨raw, -, hraw, rfl, hname⟩ := h
  refine ⟨hname, ?_, fun hmem => hraw (Text.mem_of_mem_trimChars ?_)⟩
  · rw [Text.trim, String.toList_ofList]
    exact Text.isTrimmed_trimChars raw.toList
  · rwa [Text.trim, String.toList_ofList] at hmem

theorem assigns_ofPair {p : String × String} (h : IsPlainName p.1) :
    Assigns (ofPair p) p.1 p.2 := by
  refine ⟨p.1, rfl, h.not_mem, ?_, h.ne_empty⟩
  rw [Text.trim, Text.trimChars_eq_self h.isTrimmed, String.ofList_toList]

theorem assigns_ofPair_iff {p : String × String} (h : IsPlainName p.1) :
    Assigns (ofPair p) name value ↔ (name, value) = p := by
  constructor
  · intro hassigns
    exact Prod.ext_iff.mpr (hassigns.unique (assigns_ofPair h))
  · rintro rfl
    exact assigns_ofPair h

/-- Each pair is the last one with its name if the names are different. -/
theorem isLastValue_map_ofPair_iff {pairs : List (String × String)}
    (hplain : ∀ p ∈ pairs, IsPlainName p.1) (hnodup : (pairs.map (·.1)).Nodup) :
    IsLastValue (pairs.map ofPair) name value ↔ (name, value) ∈ pairs := by
  induction pairs with
  | nil => exact iff_of_false not_isLastValue_nil List.not_mem_nil
  | cons p rest ih =>
    obtain ⟨hp, hrest⟩ := List.forall_mem_cons.mp hplain
    obtain ⟨hnew, hdistinct⟩ := List.nodup_cons.mp hnodup
    have hlater : (name, value) = p →
        ∀ t ∈ rest.map ofPair, ∀ v, ¬Assigns t name v := by
      rintro rfl
      refine List.forall_mem_map.mpr fun q hq v hassigns => hnew ?_
      have hq' : (name, v) = q := (assigns_ofPair_iff (hrest q hq)).mp hassigns
      exact List.mem_map.mpr ⟨q, hq, hq' ▸ rfl⟩
    rw [List.map_cons, isLastValue_cons_iff, ih hrest hdistinct, assigns_ofPair_iff hp,
      and_iff_left_of_imp hlater, List.mem_cons, or_comm]

/-- **The pairs of a set, written as arguments in any order, give back the set** if its names are
plain, and only then. -/
theorem readSet_map_ofPair_iff {pairs : List (String × String)} (h : pairs.Perm s.pairs) :
    readSet s.tag (pairs.map ofPair) = .ok s ↔ ∀ p ∈ s.pairs, IsPlainName p.1 := by
  rw [readSet_eq_ok_iff]
  constructor
  · rintro ⟨-, -, hget⟩ p hp
    obtain ⟨-, text, -, -, hassigns, -⟩ := (hget p.1 p.2).mp (mem_pairs_iff.mp hp)
    exact hassigns.isPlainName
  · intro hplain
    have hplain' : ∀ p ∈ pairs, IsPlainName p.1 := fun p hp => hplain p (h.mem_iff.mp hp)
    have hnodup : (pairs.map (·.1)).Nodup := (h.map Prod.fst).nodup_iff.mpr s.attributes.nodup_keys
    refine ⟨rfl, List.forall_mem_map.mpr fun p hp => ⟨_, _, assigns_ofPair (hplain' p hp)⟩, ?_⟩
    intro name value
    rw [isLastValue_map_ofPair_iff hplain' hnodup, h.mem_iff, mem_pairs_iff]

/-! ## All arguments -/

/-- **Attribute arguments.** Reading fails exactly if some text has no equals sign or nothing but
blank characters in front of the first one. Otherwise it gives the set in which the last argument
for a name counts, and the pairs of a set of plain names give back the set in any order. -/
theorem readSet_decodes (tag : Option String) (texts : List String) :
    ((∃ e, readSet tag texts = .error e) ↔ ∃ text ∈ texts, '=' ∉ text.toList ∨
        ∀ c ∈ (Text.before '=' text).toList, Text.isBlank c = true) ∧
      (∀ s, readSet tag texts = .ok s ↔ s.tag = tag ∧ (∀ text ∈ texts, IsAssignment text) ∧
        ∀ name value, s.get? name = some value ↔ IsLastValue texts name value) ∧
      ∀ (s : AttributeSet) (pairs : List (String × String)), pairs.Perm s.pairs →
        (readSet s.tag (pairs.map ofPair) = .ok s ↔ ∀ p ∈ s.pairs, IsPlainName p.1) := by
  refine ⟨?_, fun s => readSet_eq_ok_iff, fun s pairs h => readSet_map_ofPair_iff h⟩
  rw [exists_readSet_eq_error_iff]
  simp only [isAssignment_iff, not_not]

/-- An empty value, and a value with an equals sign and a blank in it. -/
theorem readSet_decodes_device :
    let s : AttributeSet :=
      { ofPairs [("Cclass", "Device"), ("Cgroup", ""), ("Define", "A = B")] with tag := "component" }
    s.pairs.reverse.Perm s.pairs ∧ (∀ p ∈ s.pairs, IsPlainName p.1) ∧
      readSet "component" ["Define=A = B", "Cgroup=", "Cclass=Device"] = .ok s := by
  intro s
  have hperm : s.pairs.reverse.Perm s.pairs := List.reverse_perm s.pairs
  have hplain : ∀ p ∈ s.pairs, IsPlainName p.1 := by decide +kernel
  have htexts : s.pairs.reverse.map ofPair =
      ["Define=A = B", "Cgroup=", "Cclass=Device"] := by decide +kernel
  have hread := ((readSet_decodes none []).2.2 s _ hperm).mpr hplain
  rw [htexts] at hread
  exact ⟨hperm, hplain, hread⟩

end PackQuery.Assignment
