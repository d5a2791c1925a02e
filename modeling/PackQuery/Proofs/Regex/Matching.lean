import Mathlib.Data.List.Forall2
import PackQuery.Regex.Basic

/-!
# What a concatenation matches

A concatenation matches a text as a whole if the text can be cut into pieces, one for each item,
so that each item matches its piece (`IsConcat`). For a run there are many pieces to choose from.

The matcher makes no choices. It keeps an answer for every suffix of the text, and each item turns
the answers of the items behind it into its own, from the end of the text to its start. The
answers for a shorter text are a tail of those for a longer one (`suffixMatches_cons`), so the
first answer has a recursion over items and text.

Main result: `matchesText_iff`.
-/

namespace PackQuery.Regex

/-! ## Cutting a text into pieces -/

universe u v

section
variable {α : Type u} {β : Type v} {R : α → List Char → Prop}

/-- Whether a text consists of pieces that stand to some things in a relation, in order. -/
def IsConcat (R : α → List Char → Prop) (xs : List α) (text : List Char) : Prop :=
  ∃ pieces, List.Forall₂ R xs pieces ∧ pieces.flatten = text

theorem isConcat_nil {text : List Char} : IsConcat R [] text ↔ text = [] := by
  constructor
  · rintro ⟨pieces, hpieces, rfl⟩
    cases hpieces
    rfl
  · rintro rfl
    exact ⟨[], .nil, rfl⟩

theorem isConcat_cons {x : α} {xs : List α} {text : List Char} :
    IsConcat R (x :: xs) text ↔ ∃ u v, R x u ∧ IsConcat R xs v ∧ u ++ v = text := by
  constructor
  · rintro ⟨pieces, hpieces, rfl⟩
    cases hpieces with
    | @cons _ u _ rest hu hrest => exact ⟨u, rest.flatten, hu, ⟨rest, hrest, rfl⟩, rfl⟩
  · rintro ⟨u, -, hu, ⟨rest, hrest, rfl⟩, rfl⟩
    exact ⟨u :: rest, .cons hu hrest, rfl⟩

/-- Things that stand alike to all texts have the same concatenations. -/
theorem isConcat_congr {S : β → List Char → Prop} {xs : List α} {ys : List β}
    (h : List.Forall₂ (fun x y => ∀ text, R x text ↔ S y text) xs ys) (text : List Char) :
    IsConcat R xs text ↔ IsConcat S ys text := by
  induction h generalizing text with
  | nil => rw [isConcat_nil, isConcat_nil]
  | cons hxy _ ih => simp only [isConcat_cons, hxy, ih]

end

/-! ## Matching by recursion -/

namespace Item

/-- The texts that an item matches. -/
def Matches : Item → List Char → Prop
  | char c, text => text = [c]
  | any, text => ∃ c, isAny c = true ∧ text = [c]
  | anyRun, text => ∀ c ∈ text, isAny c = true
  | oneOf set, text => ∃ c, set.contains c = true ∧ text = [c]

/-- An item other than a run matches one character that it accepts. -/
theorem matches_iff {item : Item} (h : item ≠ anyRun) {text : List Char} :
    item.Matches text ↔ ∃ c, item.accepts c = true ∧ text = [c] := by
  cases item with
  | char c => simp [Matches, accepts]
  | any => rfl
  | anyRun => exact absurd rfl h
  | oneOf set => rfl

end Item

theorem suffixMatches_cons (c : Char) (text : List Char) (items : List Item) :
    suffixMatches (c :: text) items =
      matchesText items (c :: text) :: suffixMatches text items := by
  induction items with
  | nil => rfl
  | cons item items ih =>
    rw [matchesText, suffixMatches, suffixMatches, ih]
    cases item <;> rfl

theorem matchesText_nil (text : List Char) : matchesText [] text = text.isEmpty := by
  cases text <;> rfl

theorem matchesText_anyRun_nil (items : List Item) :
    matchesText (.anyRun :: items) [] = matchesText items [] := rfl

theorem matchesText_anyRun_cons (items : List Item) (c : Char) (text : List Char) :
    matchesText (.anyRun :: items) (c :: text) =
      (matchesText items (c :: text) || Item.isAny c && matchesText (.anyRun :: items) text) := by
  rw [matchesText, suffixMatches, suffixMatches_cons]
  rfl

theorem matchesText_cons_nil {item : Item} (h : item ≠ .anyRun) (items : List Item) :
    matchesText (item :: items) [] = false := by
  cases item <;> first | rfl | exact absurd rfl h

theorem matchesText_cons_cons {item : Item} (h : item ≠ .anyRun) (items : List Item) (c : Char)
    (text : List Char) :
    matchesText (item :: items) (c :: text) = (item.accepts c && matchesText items text) := by
  rw [matchesText, suffixMatches, suffixMatches_cons]
  cases item <;> first | rfl | exact absurd rfl h

/-! ## The pieces that are matched -/

/-- A run takes the next character, or leaves the text to the items behind it. -/
theorem isConcat_anyRun_cons {items : List Item} {c : Char} {text : List Char} :
    IsConcat Item.Matches (.anyRun :: items) (c :: text) ↔
      IsConcat Item.Matches items (c :: text) ∨
        Item.isAny c = true ∧ IsConcat Item.Matches (.anyRun :: items) text := by
  rw [isConcat_cons, isConcat_cons]
  constructor
  · rintro ⟨u, v, hu, hv, htext⟩
    cases u with
    | nil => exact Or.inl (htext ▸ hv)
    | cons d u =>
      obtain ⟨rfl, rfl⟩ := List.cons.inj htext
      obtain ⟨hd, hu⟩ := List.forall_mem_cons.mp hu
      exact Or.inr ⟨hd, u, v, hu, hv, rfl⟩
  · rintro (hv | ⟨hc, u, v, hu, hv, rfl⟩)
    · exact ⟨[], c :: text, nofun, hv, rfl⟩
    · exact ⟨c :: u, v, List.forall_mem_cons.mpr ⟨hc, hu⟩, hv, rfl⟩

theorem isConcat_anyRun_nil {items : List Item} :
    IsConcat Item.Matches (.anyRun :: items) [] ↔ IsConcat Item.Matches items [] := by
  rw [isConcat_cons]
  constructor
  · rintro ⟨u, v, -, hv, htext⟩
    exact (List.append_eq_nil_iff.mp htext).2 ▸ hv
  · intro h
    exact ⟨[], [], nofun, h, rfl⟩

theorem isConcat_single {item : Item} (h : item ≠ .anyRun) {items : List Item}
    {text : List Char} :
    IsConcat Item.Matches (item :: items) text ↔
      ∃ c rest, item.accepts c = true ∧ IsConcat Item.Matches items rest ∧ c :: rest = text := by
  rw [isConcat_cons]
  constructor
  · rintro ⟨u, v, hu, hv, rfl⟩
    obtain ⟨c, hc, rfl⟩ := (Item.matches_iff h).mp hu
    exact ⟨c, v, hc, hv, rfl⟩
  · rintro ⟨c, rest, hc, hrest, rfl⟩
    exact ⟨[c], rest, (Item.matches_iff h).mpr ⟨c, hc, rfl⟩, hrest, rfl⟩

/-- **The matcher finds the pieces if there are any.** -/
theorem matchesText_iff (items : List Item) (text : List Char) :
    matchesText items text = true ↔ IsConcat Item.Matches items text := by
  induction items generalizing text with
  | nil => rw [matchesText_nil, isConcat_nil, List.isEmpty_iff]
  | cons item items ih =>
    by_cases hrun : item = .anyRun
    · -- A run may take any number of characters, so this is an induction on the text.
      subst hrun
      induction text with
      | nil => rw [matchesText_anyRun_nil, isConcat_anyRun_nil, ih]
      | cons c text iht =>
        rw [matchesText_anyRun_cons, isConcat_anyRun_cons, Bool.or_eq_true, Bool.and_eq_true, ih,
          iht]
    · rw [isConcat_single hrun]
      cases text with
      | nil => simp [matchesText_cons_nil hrun]
      | cons c text =>
        rw [matchesText_cons_cons hrun, Bool.and_eq_true, ih]
        simp

end PackQuery.Regex
