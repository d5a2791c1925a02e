import PackQuery.Proofs.Yaml.Block
import PackQuery.Proofs.Yaml.Quoted
import PackQuery.Yaml.Printer
import PackQuery.Yaml.Token.Lexer

/-!
# What is written

What the characters of a written document have in common, and how texts stand in it.

**Texts.** A text stands plain or between quotes (`Inline`), or as a literal block. What stands in a
line starts with a visible character that is no mark of a document, and takes at most four times
the bytes of the text.

**Documents** are made of printable characters, so they are read as they are
(`normalize_of_isPrintable`), and every line that an entry starts is indented as far as its table.
-/

namespace PackQuery.Yaml

open Style (isSpace hasPair)

variable {s t w : List Char} {x : Char} {column : Nat} {style : ScalarStyle}

/-! ## Texts in a line -/

/-- How a text stands in a line, in an entry in a column. -/
inductive Inline (column : Nat) : List Char → ScalarStyle → List Char → Prop where
  | plain {x : Char} {s : List Char} (h : IsPlain x s) : Inline column (x :: s) .plain (x :: s)
  | single {s : List Char} (h : Style.canBeSingleQuoted s = true) (hfeed : '\n' ∉ s) :
    Inline column s .singleQuoted (Quoted.single (column + 2) s)
  | double (s : List Char) : Inline column s .doubleQuoted (Quoted.double s)

/-- The style of a text, and what it takes. -/
theorem ofText_cases (s : List Char) :
    (Style.ofText s = .literal ∧ '\n' ∈ s ∧ Style.canBeLiteral s = true) ∨
      (Style.ofText s = .plain ∧ Style.canBePlain s = true) ∨
      (Style.ofText s = .singleQuoted ∧ '\n' ∉ s ∧ Style.canBeSingleQuoted s = true) ∨
      Style.ofText s = .doubleQuoted := by
  unfold Style.ofText
  split_ifs <;> simp_all

/-- A text is written in a line, with a line end behind it, or as a literal block. -/
theorem textLine_cases (column : Nat) (s : List Char) :
    (∃ w, Inline column s (Style.ofText s) w ∧ textLine column s = w ++ ['\n']) ∨
      Style.ofText s = .literal ∧ '\n' ∈ s ∧ Style.needsEscape s = false ∧
        textLine column s = Block.literal (column + 2) s := by
  unfold textLine
  rcases ofText_cases s with ⟨hstyle, hfeed, hs⟩ | ⟨hstyle, hs⟩ | ⟨hstyle, hfeed, hs⟩ | hstyle <;>
    rw [hstyle]
  · simp only [Style.canBeLiteral, Bool.not_eq_true', Bool.or_eq_false_iff] at hs
    exact Or.inr ⟨rfl, hfeed, hs.2, rfl⟩
  · obtain ⟨x, s, rfl, h⟩ := exists_isPlain hs
    exact Or.inl ⟨_, .plain h, rfl⟩
  · exact Or.inl ⟨_, .single hs hfeed, rfl⟩
  · exact Or.inl ⟨_, .double s, rfl⟩

/-- A text without line ends stands in a line. -/
theorem exists_inline (h : ∀ x ∈ s, isBreak x = false) (column : Nat) :
    ∃ w, Inline column s (Style.ofText s) w ∧ textLine column s = w ++ ['\n'] := by
  rcases textLine_cases column s with hline | ⟨-, hfeed, -⟩
  · exact hline
  · cases h _ hfeed

theorem inline_true (column : Nat) : Inline column "true".toList .plain "true".toList :=
  .plain (isPlain_of_canBePlain (x := 't') (s := ['r', 'u', 'e']) rfl)

theorem inline_false (column : Nat) : Inline column "false".toList .plain "false".toList :=
  .plain (isPlain_of_canBePlain (x := 'f') (s := ['a', 'l', 's', 'e']) rfl)

/-- A colon behind a text makes no mark of a document from it. -/
theorem isPrefixOf_append_colon {a : Char} (ha : a ≠ ':') (hs : [a, a, a].isPrefixOf s = false) :
    [a, a, a].isPrefixOf (s ++ ':' :: t) = false := by
  match s with
  | [] | [_] | [_, _] => simp [List.isPrefixOf, ha]
  | _ :: _ :: _ :: _ => simpa [List.isPrefixOf] using hs

namespace Inline

/-- What stands in a line starts visibly, and as a key not like a mark of a document. -/
theorem exists_head (h : Inline column s style w) :
    ∃ x u, w = x :: u ∧ (∀ t, IsVisible (x :: t)) ∧ x ≠ '%' ∧
      ∀ t, ['-', '-', '-'].isPrefixOf (w ++ ':' :: t) = false ∧
        ['.', '.', '.'].isPrefixOf (w ++ ':' :: t) = false := by
  cases h with
  | @plain x s h =>
    obtain ⟨hdashes, hdots⟩ := h.isPrefixOf_eq_false
    have hbom : x ≠ '\ufeff' := by
      rintro rfl
      cases h.isPrintable _ List.mem_cons_self
    exact ⟨x, s, rfl, fun t => isVisible_cons h.isBlank_head (h.isBreak x List.mem_cons_self)
      (h.ne_openingMark (by decide)) hbom, h.ne_openingMark (by decide), fun t =>
        ⟨isPrefixOf_append_colon (by decide) hdashes, isPrefixOf_append_colon (by decide) hdots⟩⟩
  | single =>
    exact ⟨'\'', _, rfl, fun t => isVisible_cons rfl rfl (by decide) (by decide), by decide,
      fun t => ⟨rfl, rfl⟩⟩
  | double =>
    exact ⟨'"', _, rfl, fun t => isVisible_cons rfl rfl (by decide) (by decide), by decide,
      fun t => ⟨rfl, rfl⟩⟩

/-- Without line ends in a text there are none in what is written for it. -/
theorem isBreak_eq_false (h : Inline column s style w) (hs : ∀ x ∈ s, isBreak x = false) :
    ∀ x ∈ w, isBreak x = false := by
  intro x hx
  cases h with
  | plain => exact hs x hx
  | single =>
    rcases Quoted.mem_single hx with hx | rfl | rfl
    · exact hs x hx
    · rfl
    · rfl
  | double => exact (Quoted.mem_double hx).1

theorem isPrintable (h : Inline column s style w) : ∀ x ∈ w, isPrintable x = true := by
  intro x hx
  cases h with
  | plain h => exact h.isPrintable x hx
  | single h =>
    simp only [Style.canBeSingleQuoted, Bool.not_eq_true', Bool.or_eq_false_iff] at h
    rcases Quoted.mem_single hx with hx | rfl | rfl
    · exact isPrintable_of_needsEscape h.2 x hx
    · rfl
    · rfl
  | double => exact (Quoted.mem_double hx).2

/-- What is written for a text without line ends takes at most four times its bytes, and two for
the quotes. -/
theorem bytes_le (h : Inline column s style w) (hs : ∀ x ∈ s, isBreak x = false) :
    bytes w ≤ 4 * bytes s + 2 := by
  cases h with
  | plain => omega
  | single => exact Quoted.bytes_single_le hs
  | double => exact Quoted.bytes_double_le s

end Inline

/-! ## Keys -/

/-- A key stands in a line in front of its colon, and is short there, or behind a question mark
with its colon in a line of its own. -/
theorem keyPart_cases (column : Nat) (k : String) :
    (∃ w, Inline column k.toList (Style.ofText k.toList) w ∧ (∀ x ∈ w, isBreak x = false) ∧
        bytes w ≤ Candidate.longest ∧
        keyPart column k = List.replicate column ' ' ++ (w ++ [':'])) ∨
      keyPart column k = List.replicate column ' ' ++
        '?' :: ' ' :: (textLine column k.toList ++ (List.replicate column ' ' ++ [':'])) := by
  by_cases hsimple : isSimpleKey k = true
  · have hkey := hsimple
    simp only [isSimpleKey, Bool.and_eq_true, decide_eq_true_eq, Bool.not_eq_true',
      List.any_eq_false, Bool.not_eq_true] at hsimple
    obtain ⟨hbytes, hbreak⟩ := hsimple
    obtain ⟨w, hw, hline⟩ := exists_inline hbreak column
    have hle := hw.bytes_le hbreak
    rw [bytes_toList] at hle
    refine Or.inl ⟨w, hw, hw.isBreak_eq_false hbreak, ?_, ?_⟩
    · unfold longestKey at hbytes
      unfold Candidate.longest
      omega
    · rw [keyPart, if_pos hkey, hline, List.dropLast_concat, List.append_assoc]
  · refine Or.inr ?_
    rw [keyPart, if_neg hsimple]
    simp

/-! ## Lines -/

/-- Whether some characters are the lines behind an entry in a column: the next line is indented at
most as far. -/
structure Follows (column : Nat) (t : List Char) : Prop where
  isVisible : IsVisible (unindented t)
  length_indentation_le : (indentation t).length ≤ column

theorem follows_nil (column : Nat) : Follows column [] := ⟨isVisible_nil, Nat.zero_le _⟩

theorem Follows.mono {k : Nat} (h : Follows column t) (hk : column ≤ k) : Follows k t :=
  ⟨h.isVisible, Nat.le_trans h.length_indentation_le hk⟩

theorem follows_replicate (hs : IsVisible s) (k : Nat) : Follows k (List.replicate k ' ' ++ s) :=
  ⟨by rwa [unindented_replicate_append hs],
    by rw [indentation_replicate_append hs, List.length_replicate]⟩

/-- A key is indented up to its column. -/
theorem exists_keyPart (column : Nat) (k : String) :
    ∃ x u, keyPart column k = List.replicate column ' ' ++ x :: u ∧ ∀ t, IsVisible (x :: t) := by
  rcases keyPart_cases column k with ⟨w, hw, -, -, hkey⟩ | hkey
  · obtain ⟨x, u, rfl, hvisible, -⟩ := hw.exists_head
    exact ⟨x, u ++ [':'], hkey, hvisible⟩
  · exact ⟨'?', _, hkey, fun t => isVisible_cons rfl rfl (by decide) (by decide)⟩

/-- The entries of a table follow each other, and what follows the table follows its entries. -/
theorem follows_entriesPart (h : Follows column t) (es : List (String × Outline)) :
    Follows column (entriesPart column es ++ t) := by
  cases es with
  | nil => exact h
  | cons e es =>
    obtain ⟨k, v⟩ := e
    obtain ⟨x, u, hkey, hvisible⟩ := exists_keyPart column k
    have hcons : entriesPart column ((k, v) :: es) ++ t =
        List.replicate column ' ' ++
          x :: (u ++ valuePart column v ++ entriesPart column es ++ t) := by
      rw [entriesPart, hkey]
      simp
    rw [hcons]
    exact follows_replicate (hvisible _) column

/-- What stands behind a colon starts with a blank or a line end. -/
theorem isBlankAhead_valuePart (k : Nat) (v : Outline) (t : List Char) :
    isBlankAhead (valuePart k v ++ t) = true := by
  unfold valuePart
  split <;> rfl

/-! ## Printable characters -/

theorem isPrintable_textLine (column : Nat) (s : List Char) :
    ∀ x ∈ textLine column s, isPrintable x = true := by
  rcases textLine_cases column s with ⟨w, hw, hline⟩ | ⟨-, -, hescape, hline⟩ <;> rw [hline]
  · exact List.forall_mem_append.mpr ⟨hw.isPrintable, List.all_eq_true.mp rfl⟩
  · exact fun x hx => (Block.mem_literal hx).elim (isPrintable_of_needsEscape hescape x) id

theorem isPrintable_replicate (n : Nat) : ∀ x ∈ List.replicate n ' ', isPrintable x = true := by
  intro x hx
  rw [List.eq_of_mem_replicate hx]
  rfl

theorem isPrintable_keyPart (column : Nat) (k : String) :
    ∀ x ∈ keyPart column k, isPrintable x = true := by
  rcases keyPart_cases column k with ⟨w, hw, -, -, hkey⟩ | hkey <;> rw [hkey]
  · exact List.forall_mem_append.mpr ⟨isPrintable_replicate column,
      List.forall_mem_append.mpr ⟨hw.isPrintable, List.all_eq_true.mp rfl⟩⟩
  · exact List.forall_mem_append.mpr ⟨isPrintable_replicate column,
      List.forall_mem_cons.mpr ⟨rfl, List.forall_mem_cons.mpr ⟨rfl,
        List.forall_mem_append.mpr ⟨isPrintable_textLine column _,
          List.forall_mem_append.mpr ⟨isPrintable_replicate column, List.all_eq_true.mp rfl⟩⟩⟩⟩⟩

mutual

theorem isPrintable_valuePart (column : Nat) :
    ∀ v, ∀ x ∈ valuePart column v, isPrintable x = true
  | .bool b => by
    rw [valuePart]
    cases b <;> exact List.all_eq_true.mp rfl
  | .text s => by
    rw [valuePart]
    exact List.forall_mem_cons.mpr ⟨rfl, isPrintable_textLine column _⟩
  | .table [] => by
    rw [valuePart]
    exact List.all_eq_true.mp rfl
  | .table ((k, v) :: es) => by
    rw [valuePart, List.append_assoc]
    exact List.forall_mem_append.mpr ⟨List.forall_mem_cons.mpr ⟨rfl, isPrintable_keyPart _ k⟩,
      List.forall_mem_append.mpr ⟨isPrintable_valuePart _ v, isPrintable_entriesPart _ es⟩⟩

/-- All that is written is printable. -/
theorem isPrintable_entriesPart (column : Nat) :
    ∀ es, ∀ x ∈ entriesPart column es, isPrintable x = true
  | [] => nofun
  | (k, v) :: es => by
    rw [entriesPart, List.append_assoc]
    exact List.forall_mem_append.mpr ⟨isPrintable_keyPart column k,
      List.forall_mem_append.mpr ⟨isPrintable_valuePart column v,
        isPrintable_entriesPart column es⟩⟩

end

theorem isAllowed_of_isPrintable (h : isPrintable x = true) : isAllowed x = true := by
  simp only [isPrintable, isAllowed, Bool.or_eq_true, Bool.and_eq_true] at h ⊢
  tauto

/-- Printable characters are read as they are. -/
theorem normalize_of_isPrintable (h : ∀ x ∈ s, isPrintable x = true) : normalize s = s := by
  induction s with
  | nil => rfl
  | cons x s ih =>
    obtain ⟨hx, hs⟩ := List.forall_mem_cons.mp h
    have hne : x ≠ '\r' ∧ x ≠ '\x85' := by
      constructor <;> rintro rfl <;> cases hx
    rw [normalize, ih hs]
    all_goals simp [hne.1, hne.2]

end PackQuery.Yaml
