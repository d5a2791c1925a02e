import Mathlib.Data.List.TakeWhile
import PackQuery.Text.Cut

/-!
# Trimmed texts

Trimming drops blank characters at the front, and then at the end by way of the reversed text. Here
it is described by what it leaves.

**What is left** (`trimChars_eq_iff`). A text is blank characters, its trimmed text and blank
characters again, and the trimmed text has no blank character at either end. There is only one way
to cut a text like this, so a trimmed text stays as it is.

**Nothing is left** (`trimChars_eq_nil_iff`) exactly of blank characters.
-/

namespace PackQuery.Text

variable {s t w w' : List Char}

/-- Whether no blank character stands at either end. -/
structure IsTrimmed (t : List Char) : Prop where
  head : ∀ c ∈ t.head?, isBlank c = false
  last : ∀ c ∈ t.getLast?, isBlank c = false

instance (t : List Char) : Decidable (IsTrimmed t) :=
  decidable_of_iff (t.head?.any isBlank = false ∧ t.getLast?.any isBlank = false)
    ⟨fun h => ⟨(Option.any_eq_false _ _).mp h.1, (Option.any_eq_false _ _).mp h.2⟩,
      fun h => ⟨(Option.any_eq_false _ _).mpr h.head, (Option.any_eq_false _ _).mpr h.last⟩⟩

theorem isTrimmed_nil : IsTrimmed [] := ⟨nofun, nofun⟩

theorem isTrimmed_of_forall (h : ∀ c ∈ t, isBlank c = false) : IsTrimmed t where
  head c hc := h c (List.mem_of_mem_head? hc)
  last c hc := h c (List.mem_of_getLast? hc)

theorem dropWhile_isBlank_eq_self (h : ∀ c ∈ s.head?, isBlank c = false) :
    s.dropWhile isBlank = s := by
  cases s with
  | nil => rfl
  | cons c s => exact List.dropWhile_cons_of_neg (by simp [h c rfl])

theorem head?_dropWhile_isBlank (s : List Char) :
    ∀ c ∈ (s.dropWhile isBlank).head?, isBlank c = false := by
  intro c hc
  have hhead := List.head?_dropWhile_not isBlank s
  rw [Option.mem_def.mp hc] at hhead
  exact hhead

/-! ## What is left -/

theorem trimChars_append (hw : ∀ c ∈ w, isBlank c = true) (hw' : ∀ c ∈ w', isBlank c = true)
    (ht : IsTrimmed t) : trimChars (w ++ t ++ w') = t := by
  have hrev : ∀ c ∈ w'.reverse, isBlank c = true := fun c hc => hw' c (List.mem_reverse.mp hc)
  rw [trimChars, List.append_assoc, List.dropWhile_append_of_pos hw]
  cases t with
  | nil =>
    rw [List.nil_append, List.dropWhile_eq_nil_iff.mpr hw']
    rfl
  | cons c t =>
    have hfront : (c :: t ++ w').dropWhile isBlank = c :: t ++ w' :=
      dropWhile_isBlank_eq_self ht.head
    have hback : (c :: t).reverse.dropWhile isBlank = (c :: t).reverse :=
      dropWhile_isBlank_eq_self fun d hd => ht.last d (by rwa [List.head?_reverse] at hd)
    rw [hfront, List.reverse_append, List.dropWhile_append_of_pos hrev, hback,
      List.reverse_reverse]

theorem trimChars_eq_self (h : IsTrimmed t) : trimChars t = t := by
  have htrim : trimChars ([] ++ t ++ []) = t := trimChars_append nofun nofun h
  rwa [List.nil_append, List.append_nil] at htrim

/-- A text is put together of its trimmed text and blank characters. -/
theorem exists_trimChars (s : List Char) : ∃ w w', (∀ c ∈ w, isBlank c = true) ∧
    (∀ c ∈ w', isBlank c = true) ∧ s = w ++ trimChars s ++ w' := by
  refine ⟨s.takeWhile isBlank, ((s.dropWhile isBlank).reverse.takeWhile isBlank).reverse,
    fun c hc => List.mem_takeWhile_imp hc,
    fun c hc => List.mem_takeWhile_imp (List.mem_reverse.mp hc), ?_⟩
  rw [trimChars, List.append_assoc, ← List.reverse_append, List.takeWhile_append_dropWhile,
    List.reverse_reverse, List.takeWhile_append_dropWhile]

theorem isTrimmed_trimChars (s : List Char) : IsTrimmed (trimChars s) where
  head c hc := by
    have hprefix : trimChars s <+: s.dropWhile isBlank := by
      rw [← List.reverse_suffix, trimChars, List.reverse_reverse]
      exact List.dropWhile_suffix isBlank
    obtain ⟨rest, hrest⟩ := hprefix
    have hhead := head?_dropWhile_isBlank s
    rw [← hrest] at hhead
    exact hhead c (by rw [List.head?_append, Option.mem_def.mp hc]; rfl)
  last c hc := by
    rw [trimChars, List.getLast?_reverse] at hc
    exact head?_dropWhile_isBlank _ c hc

/-- **Trimming takes the blank characters at the ends away**, and no others. -/
theorem trimChars_eq_iff : trimChars s = t ↔ IsTrimmed t ∧ ∃ w w',
    (∀ c ∈ w, isBlank c = true) ∧ (∀ c ∈ w', isBlank c = true) ∧ s = w ++ t ++ w' := by
  constructor
  · rintro rfl
    exact ⟨isTrimmed_trimChars s, exists_trimChars s⟩
  · rintro ⟨ht, w, w', hw, hw', rfl⟩
    exact trimChars_append hw hw' ht

/-- **Nothing is left of blank characters**, and only of these. -/
theorem trimChars_eq_nil_iff : trimChars s = [] ↔ ∀ c ∈ s, isBlank c = true := by
  constructor
  · intro h
    obtain ⟨w, w', hw, hw', hs⟩ := exists_trimChars s
    rw [h, List.append_nil] at hs
    rw [hs]
    exact List.forall_mem_append.mpr ⟨hw, hw'⟩
  · intro h
    have htrim : trimChars (s ++ [] ++ []) = [] := trimChars_append h nofun isTrimmed_nil
    rwa [List.append_nil, List.append_nil] at htrim

/-- Trimming drops characters and adds none. -/
theorem mem_of_mem_trimChars {c : Char} (h : c ∈ trimChars s) : c ∈ s := by
  obtain ⟨w, w', -, -, hs⟩ := exists_trimChars s
  rw [hs]
  exact List.mem_append_left w' (List.mem_append_right w h)

end PackQuery.Text
