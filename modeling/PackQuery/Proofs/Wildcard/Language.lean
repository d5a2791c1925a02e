import Mathlib
import PackQuery.Proofs.Regex.Matching
import PackQuery.Proofs.Wildcard.ClassRoom

/-!
# What patterns match

**Theorem (`accepts_iff_isConcat_segments`).** If a pattern compiles, each of its classes is valid
on its own, and the pattern matches the texts that consist of pieces, one for each segment in
order, where the piece of a class is one character that the class on its own accepts.

**Theorem (`accepts_and_agree_iff`).** A pattern without classes compiles if there is room, and it
matches its language. Two such texts agree if they are the same, or neither is empty and one is in
the language of the other. That is so although only texts with marks are tried as patterns: any
other text is alone in its language.

The room is the limit on the size of an expression. It bounds a pattern as a whole, and the room
of a class depends on where in the pattern it stands. So a class may have room in a pattern and
none on its own (`compile?_broadBody`). Any other class of a pattern that compiles does so on its
own.
-/

namespace PackQuery.Wildcard

open Regex

/-! ## Pieces for segments -/

/-- The texts that a segment stands for: those of a class are single characters, and the class
alone tells which ones. -/
def Segment.Matches : Segment → List Char → Prop
  | one, text => ∃ c, c ≠ '\n' ∧ text = [c]
  | run, text => '\n' ∉ text
  | char c, text => text = [c]
  | bracket body, text =>
    ∃ c items, parse? (classText body) = some items ∧ matchesText items [c] = true ∧ text = [c]

theorem matches_of_item? {g : Segment} {i : Item} (hg : ∀ body, g = .bracket body → IsBody body)
    (h : g.item? = some i) (text : List Char) : i.Matches text ↔ g.Matches text := by
  cases g with
  | one =>
    cases h
    simp only [Item.Matches, Segment.Matches, Item.isAny, bne_iff_ne]
  | run =>
    cases h
    simp only [Item.Matches, Segment.Matches, Item.isAny, bne_iff_ne]
    exact ⟨fun hall hmem => hall _ hmem rfl, fun hmem c hc heq => hmem (heq ▸ hc)⟩
  | char c =>
    cases h
    exact Iff.rfl
  | bracket body =>
    obtain ⟨s, rfl, halone⟩ := exists_of_item?_bracket (hg body rfl) h
    have hone : ∀ c, matchesText [.oneOf s] [c] = s.contains c := by
      intro c
      rw [matchesText_cons_cons (by simp), matchesText_nil]
      exact Bool.and_true _
    simp [Item.Matches, Segment.Matches, halone, hone]

theorem forall₂_of_items? {segs : List Segment} {items : List Item}
    (h : items? segs = some items) : List.Forall₂ (fun g i => g.item? = some i) segs items := by
  induction segs generalizing items with
  | nil =>
    cases h
    exact .nil
  | cons g segs ih =>
    have hcons := bind_items?_cons g (some segs)
    rw [Option.map_some, Option.bind_some, h, Option.bind_some] at hcons
    obtain ⟨i, hi, hitems⟩ := Option.bind_eq_some_iff.mp hcons.symm
    obtain ⟨items', hitems', rfl⟩ := Option.map_eq_some_iff.mp hitems
    exact .cons hi (ih hitems')

theorem exists_item? {segs : List Segment} {items : List Item}
    (h : List.Forall₂ (fun g i => Segment.item? g = some i) segs items) {g : Segment}
    (hg : g ∈ segs) : ∃ i, g.item? = some i := by
  induction h with
  | nil => cases hg
  | cons hi _ ih =>
    rcases List.mem_cons.mp hg with rfl | hg
    · exact ⟨_, hi⟩
    · exact ih hg

/-- **A pattern matches piece by piece.** -/
theorem matchesText_iff_segments {p : List Char} {segs : List Segment} {items : List Item}
    (hsegs : segments? p = some segs) (hitems : items? segs = some items) (text : List Char) :
    matchesText items text = true ↔ IsConcat Segment.Matches segs text := by
  have hbodies : ∀ g ∈ segs, ∀ body, g = .bracket body → IsBody body := by
    rintro g hg body rfl
    exact isBody_of_splitClass? (splitClass?_of_mem hsegs hg)
  have hmatch := (List.forall₂_and_left _ _).mpr ⟨hbodies, forall₂_of_items? hitems⟩
  rw [matchesText_iff]
  refine (isConcat_congr (hmatch.imp fun g i h text => ?_) text).symm
  exact (matches_of_item? h.1 h.2 text).symm

/-- The expression of a class is the class, and a class that is valid compiles unless it takes too
much room. -/
theorem compile?_classText {body : List Char}
    (h : splitClass? (body ++ [']']) = some (body, [])) {items : List Item}
    (hitems : parse? (classText body) = some items) (hroom : Room.fits items = true) :
    compile? (String.ofList (classText body)) =
      some ⟨String.ofList (classText body), items⟩ := by
  have hexpr : expression (classText body) = classText body := by
    rw [classText, expression_bracket, h]
    exact List.append_nil _
  rw [compile?, String.toList_ofList, hexpr, read?_eq, hitems, Option.bind_some, if_pos hroom]
  rfl

theorem compile?_eq (p : String) :
    compile? p = ((segments? p.toList).bind items?).bind fun items =>
      if Room.fits items then some ⟨p, items⟩ else none := by
  rw [compile?, read?_eq, parse?_expression, Option.map_bind]
  refine Option.bind_congr fun items _ => ?_
  simp only [Function.comp_apply]
  split_ifs <;> rfl

/-- **A class never swallows the rest of a pattern.** A pattern that compiles has no class left
open, each class is valid on its own and compiles unless it takes too much room on its own, and a
text matches if it consists of pieces that match the segments. -/
theorem accepts_iff_isConcat_segments {p : String} {c : Compiled} (h : compile? p = some c) :
    ∃ segs, segments? p.toList = some segs ∧
      (∀ body, .bracket body ∈ segs → ∃ items, parse? (classText body) = some items ∧
        (Room.fits items = true → compile? (String.ofList (classText body)) =
          some ⟨String.ofList (classText body), items⟩)) ∧
      ∀ text : String, c.accepts text = true ↔ IsConcat Segment.Matches segs text.toList := by
  rw [compile?_eq] at h
  obtain ⟨items, hitems, hc⟩ := Option.bind_eq_some_iff.mp h
  obtain ⟨segs, hsegs, hitems⟩ := Option.bind_eq_some_iff.mp hitems
  refine ⟨segs, hsegs, fun body hbody => ?_, fun text => ?_⟩
  · have hsplit := splitClass?_of_mem hsegs hbody
    obtain ⟨i, hi⟩ := exists_item? (forall₂_of_items? hitems) hbody
    obtain ⟨s, -, halone⟩ := exists_of_item?_bracket (isBody_of_splitClass? hsplit) hi
    exact ⟨[.oneOf s], halone, compile?_classText hsplit halone⟩
  · split_ifs at hc
    cases hc
    exact matchesText_iff_segments hsegs hitems text.toList

theorem accepts_iff_isConcat_segments_leads :
    ∃ c, compile? "v[]a-c][^]?]]*" = some c ∧
      segments? "v[]a-c][^]?]]*".toList = some [.char 'v', .bracket [']', 'a', '-', 'c'],
        .bracket ['^', ']', '?'], .char ']', .run] ∧
      compile? "[]a-c]" = some ⟨"[]a-c]", [.oneOf ⟨[(0x5D, 0x5D), (0x61, 0x63)]⟩]⟩ ∧
      ∀ text : String, c.accepts text = true ↔
        IsConcat Segment.Matches [.char 'v', .bracket [']', 'a', '-', 'c'],
          .bracket ['^', ']', '?'], .char ']', .run] text.toList := by
  have hsome : (compile? "v[]a-c][^]?]]*").isSome = true := by cbv
  have hsegments : segments? "v[]a-c][^]?]]*".toList = some [.char 'v',
      .bracket [']', 'a', '-', 'c'], .bracket ['^', ']', '?'], .char ']', .run] := by cbv
  have hparse : parse? "[]a-c]".toList = some [.oneOf ⟨[(0x5D, 0x5D), (0x61, 0x63)]⟩] := by cbv
  have hroom : Room.fits [.oneOf ⟨[(0x5D, 0x5D), (0x61, 0x63)]⟩] = true := by cbv
  obtain ⟨c, hc⟩ := Option.isSome_iff_exists.mp hsome
  obtain ⟨segs, hsegs, hclasses, haccepts⟩ := accepts_iff_isConcat_segments hc
  obtain rfl := Option.some_inj.mp (hsegs.symm.trans hsegments)
  obtain ⟨items, hitems, hcompiles⟩ := hclasses [']', 'a', '-', 'c'] (by decide)
  obtain rfl := Option.some_inj.mp (hitems.symm.trans hparse)
  exact ⟨c, hc, hsegs, hcompiles hroom, haccepts⟩

/-- **A class may take too much room on its own** although it compiles in front of one more
character. -/
theorem compile?_broadBody :
    segments? (classText broadBody ++ ['x']) = some [.bracket broadBody, .char 'x'] ∧
      (compile? (String.ofList (classText broadBody ++ ['x']))).isSome = true ∧
      compile? (String.ofList (classText broadBody)) = none := by
  have hpattern : segments? (classText broadBody ++ ['x']) =
      some [.bracket broadBody, .char 'x'] := by
    rw [segments?_broadBody, segments?_of_not_mem (by decide)]
    rfl
  have halone : segments? (classText broadBody) = some [.bracket broadBody] := by
    rw [← List.append_nil (classText broadBody), segments?_broadBody, segments?]
    rfl
  refine ⟨hpattern, ?_, ?_⟩
  · have hitems : items? [.char 'x'] = some [.char 'x'] := rfl
    rw [compile?_eq, String.toList_ofList, hpattern, Option.bind_some, items?_broadBody, hitems,
      Option.map_some, Option.bind_some, if_pos isBroad_broadSet.fits_char]
    rfl
  · have hitems : items? [] = some [] := rfl
    rw [compile?_eq, String.toList_ofList, halone, Option.bind_some, items?_broadBody, hitems,
      Option.map_some, Option.bind_some, isBroad_broadSet.fits_eq_false,
      if_neg Bool.false_ne_true]

/-! ## Patterns without classes -/

/-- The texts that a pattern without classes stands for: a question mark stands for any one
character but the line feed, a star for any run of them, and every other character for itself. -/
def language (p : String) : Set String :=
  {text | IsConcat Segment.Matches (p.toList.map Segment.ofChar) text.toList}

/-- Whether the expression of a pattern takes no more room than there is. -/
def HasRoom (p : String) : Prop :=
  ∀ items, parse? (expression p.toList) = some items → Room.fits items = true

theorem items?_map_ofChar (p : List Char) :
    items? (p.map Segment.ofChar) = some (p.map item) := by
  induction p with
  | nil => rfl
  | cons c s ih =>
    have hcons := bind_items?_cons (Segment.ofChar c) (some (s.map Segment.ofChar))
    rw [item?_ofChar, Option.bind_some, Option.bind_some, ih] at hcons
    exact hcons

theorem hasRoom_iff {p : String} (h : '[' ∉ p.toList) :
    HasRoom p ↔ Room.fits (p.toList.map item) = true := by
  rw [HasRoom, parse?_expression, segments?_of_not_mem h, Option.bind_some, items?_map_ofChar]
  simp

theorem compile?_of_not_mem {p : String} (h : '[' ∉ p.toList) (hroom : HasRoom p) :
    ∃ c, compile? p = some c ∧ ∀ text, c.accepts text = true ↔ text ∈ language p := by
  have hitems := items?_map_ofChar p.toList
  have hsegs := segments?_of_not_mem h
  refine ⟨⟨p, p.toList.map item⟩, ?_, fun text => matchesText_iff_segments hsegs hitems _⟩
  rw [compile?_eq, hsegs, Option.bind_some, hitems, Option.bind_some,
    if_pos ((hasRoom_iff h).mp hroom)]

theorem fits_iff {p : String} (h : '[' ∉ p.toList) (hroom : HasRoom p) (text : String) :
    fits p text = true ↔ text ∈ language p := by
  obtain ⟨c, hc, haccepts⟩ := compile?_of_not_mem h hroom
  rw [fits, hc]
  exact haccepts text

theorem isConcat_chars (p text : List Char) :
    IsConcat Segment.Matches (p.map .char) text ↔ text = p := by
  induction p generalizing text with
  | nil => exact isConcat_nil
  | cons c s ih =>
    rw [List.map_cons, isConcat_cons]
    constructor
    · rintro ⟨u, v, rfl, hv, rfl⟩
      exact congrArg (c :: ·) ((ih v).mp hv)
    · rintro rfl
      exact ⟨[c], s, rfl, (ih s).mpr rfl, rfl⟩

/-- A text without marks stands for itself only. -/
theorem mem_language_of_not_isPattern {p : String} (h : isPattern p = false) {text : String} :
    text ∈ language p ↔ text = p := by
  have hchars : p.toList.map Segment.ofChar = p.toList.map .char := by
    refine List.map_congr_left fun c hc => ?_
    have hmark : ¬isMark c = true := List.any_eq_false.mp h c hc
    have hone : c ≠ '?' := by
      rintro rfl
      exact hmark rfl
    have hrun : c ≠ '*' := by
      rintro rfl
      exact hmark rfl
    rw [Segment.ofChar, if_neg hone, if_neg hrun]
  rw [language, Set.mem_ofPred_eq, hchars, isConcat_chars, String.toList_inj]

/-- Of two different texts, one that is no pattern does not stand for the other. -/
theorem isPattern_and_fits_iff {p text : String} (h : '[' ∉ p.toList) (hroom : HasRoom p)
    (hne : text ≠ p) : (isPattern p && fits p text) = true ↔ text ∈ language p := by
  cases hp : isPattern p with
  | true => rw [Bool.true_and, fits_iff h hroom]
  | false =>
    rw [mem_language_of_not_isPattern hp]
    exact ⟨nofun, fun heq => absurd heq hne⟩

/-- Two texts agree if they are the same, or if one is in the other's language. -/
theorem agree_iff {a b : String} (ha : '[' ∉ a.toList) (hb : '[' ∉ b.toList)
    (hroomA : HasRoom a) (hroomB : HasRoom b) :
    agree a b = true ↔ a = b ∨ a ≠ "" ∧ b ≠ "" ∧ (b ∈ language a ∨ a ∈ language b) := by
  unfold agree
  split_ifs with heq hempty
  · simp [heq]
  · simp only [heq, false_or, false_iff]
    tauto
  · rw [not_or] at hempty
    rw [Bool.or_eq_true, isPattern_and_fits_iff ha hroomA (Ne.symm heq),
      isPattern_and_fits_iff hb hroomB heq]
    simp [heq, hempty]

/-- **Patterns without classes** are valid and match what they stand for, as either side of an
agreement. -/
theorem accepts_and_agree_iff :
    (∀ p : String, '[' ∉ p.toList → HasRoom p →
      ∃ c, compile? p = some c ∧ ∀ text, c.accepts text = true ↔ text ∈ language p) ∧
    ∀ a b : String, '[' ∉ a.toList → '[' ∉ b.toList → HasRoom a → HasRoom b →
      (agree a b = true ↔ a = b ∨ a ≠ "" ∧ b ≠ "" ∧ (b ∈ language a ∨ a ∈ language b)) :=
  ⟨fun _ hp hroom => compile?_of_not_mem hp hroom,
    fun _ _ ha hb hroomA hroomB => agree_iff ha hb hroomA hroomB⟩

theorem accepts_and_agree_iff_marks :
    (∃ c, compile? "x?*].$" = some c ∧
      ∀ text, c.accepts text = true ↔ text ∈ language "x?*].$") ∧
    (agree "*b?" "?a*" = true ↔ "*b?" = "?a*" ∨ "*b?" ≠ "" ∧ "?a*" ≠ "" ∧
      ("?a*" ∈ language "*b?" ∨ "*b?" ∈ language "?a*")) := by
  have hroom : HasRoom "x?*].$" := (hasRoom_iff (by decide)).mpr (by cbv)
  have hroomA : HasRoom "*b?" := (hasRoom_iff (by decide)).mpr (by cbv)
  have hroomB : HasRoom "?a*" := (hasRoom_iff (by decide)).mpr (by cbv)
  exact ⟨accepts_and_agree_iff.1 _ (by decide) hroom,
    accepts_and_agree_iff.2 _ _ (by decide) (by decide) hroomA hroomB⟩

end PackQuery.Wildcard
