import Mathlib.Tactic.SplitIfs
import PackQuery.Proofs.Text.Cut
import PackQuery.Vendor.Registry

/-!
# Spellings of a vendor

A vendor text is *resolved* if the id that it denotes has a display name. Two texts are compared
as texts, by their ids, and by display names as wildcard patterns, and the first of these that
says yes decides.

**Shortcuts** (`same_eq_agree`). Equal texts, and ids that stand for one vendor, lead to one
display name. So where one text is resolved, the display name alone decides.

**Spellings** (`same_spelling`). Hence it does not matter how a vendor is spelled. Where display
names are no patterns, resolved texts are the same exactly if their display names are, which is an
equivalence relation. The built-in display names are such (`builtin_hasPlainNames`).
-/

namespace PackQuery

/-- Texts without wildcard marks agree only if they are equal. -/
theorem Wildcard.agree_iff_eq {a b : String} (ha : isPattern a = false)
    (hb : isPattern b = false) : agree a b = true ↔ a = b := by
  unfold agree
  split_ifs with he
  · exact iff_of_true rfl he
  · exact iff_of_false not_false he
  · rw [ha, hb]
    exact iff_of_false Bool.false_ne_true he

theorem Wildcard.agree_self (a : String) : agree a a = true := if_pos rfl

theorem Wildcard.isPattern_of_not_mem {s : String} (h : ∀ c ∈ ['?', '*', '[', ']'], c ∉ s.toList) :
    isPattern s = false := by
  unfold isPattern
  rw [List.any_eq_false]
  intro c hc hmark
  exact h c (List.contains_iff_mem.mp hmark) hc

namespace Vendor

theorem namePart_append {name : String} (h : ':' ∉ name.toList) (id : String) :
    namePart (name ++ ":" ++ id) = name :=
  Text.before_append_separator rfl h id

theorem idPart_append {id : String} (h : ':' ∉ id.toList) (name : String) :
    idPart (name ++ ":" ++ id) = id :=
  Text.afterLast_append_separator rfl h name

namespace Registry

/-! ## Display names -/

/-- Whether no display name has a colon or a wildcard mark. -/
def HasPlainNames (r : Registry) : Prop :=
  ∀ id name, r.nameOf? id = some name → ∀ c ∈ [':', '?', '*', '[', ']'], c ∉ name.toList

theorem HasPlainNames.not_mem_colon {r : Registry} (hr : r.HasPlainNames) {id name : String}
    (h : r.nameOf? id = some name) : ':' ∉ name.toList :=
  hr id name h ':' (by decide)

theorem HasPlainNames.not_isPattern {r : Registry} (hr : r.HasPlainNames) {id name : String}
    (h : r.nameOf? id = some name) : Wildcard.isPattern name = false :=
  Wildcard.isPattern_of_not_mem fun c hc => hr id name h c (List.mem_cons_of_mem _ hc)

/-- Whether a text has neither a colon nor a wildcard mark. It is searched by bytes, since decoding
a table of names takes much longer. -/
def isPlain (s : String) : Bool :=
  s.toByteArray.data.toList.all fun b =>
    !(([':', '?', '*', '[', ']'].map (·.val.toUInt8)).contains b)

theorem not_mem_of_isPlain {s : String} (h : isPlain s = true) :
    ∀ c ∈ [':', '?', '*', '[', ']'], c ∉ s.toList := by
  have hsize : ∀ c ∈ [':', '?', '*', '[', ']'], c.utf8Size = 1 := by simp [Char.utf8Size]
  intro c hc hmem
  have hbyte := List.all_eq_true.mp h _ (Text.byte_mem_of_mem (hsize c hc) hmem)
  rw [Bool.not_eq_true', List.contains_eq_mem, decide_eq_false_iff_not] at hbyte
  exact hbyte (List.mem_map_of_mem hc)

/-- The built-in vendors have plain display names. -/
theorem builtin_hasPlainNames : builtin.HasPlainNames := by
  have hplain : ∀ id name, builtinNames.get? id = some name → isPlain name = true := by
    decide +kernel
  intro id name h
  exact not_mem_of_isPlain (hplain id name h)

/-! ## Resolved texts -/

theorem exists_nameOf? {r : Registry} {vendor name : String}
    (h : r.displayName? vendor = some name) :
    ∃ id, r.idFor? vendor = some id ∧ r.nameOf? id = some name :=
  Option.bind_eq_some_iff.mp h

/-- The full form of a resolved text. -/
theorem full_eq {r : Registry} {vendor id name : String} (hid : r.idFor? vendor = some id)
    (hname : r.nameOf? id = some name) : r.full vendor = name ++ ":" ++ id := by
  simp only [full, hid, hname]

theorem full_of_displayName?_eq_none {r : Registry} {vendor : String}
    (h : r.displayName? vendor = none) : r.full vendor = vendor := by
  unfold full
  cases hid : r.idFor? vendor with
  | none => rfl
  | some id =>
    rw [displayName?, hid, Option.bind_some] at h
    simp only [h]

/-- The full form of a resolved text has its display name. -/
theorem namePart_full {r : Registry} (hr : r.HasPlainNames) {vendor name : String}
    (h : r.displayName? vendor = some name) : namePart (r.full vendor) = name := by
  obtain ⟨id, hid, hname⟩ := exists_nameOf? h
  rw [full_eq hid hname, namePart_append (hr.not_mem_colon hname)]

theorem currentId_eq_of_sameId {r : Registry} {a b : String} (h : r.sameId a b = true) :
    r.currentId a = r.currentId b := by
  unfold sameId at h
  rcases (Bool.or_eq_true _ _).mp h with he | he
  · rw [of_decide_eq_true he]
  · exact of_decide_eq_true he

/-- Ids that stand for one vendor have one display name. -/
theorem displayName?_eq_of_sameId {r : Registry} {a b : String} (ha : idPart a ≠ "")
    (hb : idPart b ≠ "") (h : r.sameId (idPart a) (idPart b) = true) :
    r.displayName? a = r.displayName? b := by
  unfold displayName? idFor?
  rw [if_neg ha, if_neg hb, currentId_eq_of_sameId h]

/-- **The shortcuts agree with the display names.** -/
theorem same_eq_agree {r : Registry} (hr : r.HasPlainNames) (a : String) {v name : String}
    (h : r.displayName? v = some name) :
    r.same a v = Wildcard.agree (namePart (r.full a)) name := by
  have hshortcut : r.displayName? a = some name →
      true = Wildcard.agree (namePart (r.full a)) name := by
    intro ha
    rw [namePart_full hr ha, Wildcard.agree_self]
  unfold same
  split_ifs with htext hid
  · exact hshortcut (htext ▸ h)
  · exact hshortcut ((displayName?_eq_of_sameId hid.1 hid.2.1 hid.2.2).trans h)
  · rw [namePart_full hr h]

/-- Resolved texts are the same vendor exactly if their display names are equal. -/
theorem same_iff_displayName? {r : Registry} (hr : r.HasPlainNames) {x y : String}
    {name name' : String} (hx : r.displayName? x = some name)
    (hy : r.displayName? y = some name') : r.same x y = true ↔ name = name' := by
  obtain ⟨id, -, hname⟩ := exists_nameOf? hx
  obtain ⟨id', -, hname'⟩ := exists_nameOf? hy
  rw [same_eq_agree hr x hy, namePart_full hr hx]
  exact Wildcard.agree_iff_eq (hr.not_isPattern hname) (hr.not_isPattern hname')

/-- **How a vendor is spelled does not matter.** Spellings with one display name match the same
texts, and among themselves resolved texts match exactly if they have one display name. -/
theorem same_spelling {r : Registry} (hr : r.HasPlainNames) :
    (∀ a x y name, r.displayName? x = some name → r.displayName? y = some name →
        r.same a x = r.same a y) ∧
      (∀ x y name name', r.displayName? x = some name → r.displayName? y = some name' →
        (r.same x y = true ↔ name = name')) ∧
      Equivalence fun x y : {v : String // (r.displayName? v).isSome} => r.same x y = true := by
  have hiff : ∀ x y : {v : String // (r.displayName? v).isSome},
      r.same x y = true ↔ (r.displayName? x).get x.2 = (r.displayName? y).get y.2 :=
    fun x y => same_iff_displayName? hr (Option.some_get x.2).symm (Option.some_get y.2).symm
  refine ⟨fun a x y name hx hy => ?_, fun x y name name' hx hy => same_iff_displayName? hr hx hy,
    ?_⟩
  · rw [same_eq_agree hr a hx, same_eq_agree hr a hy]
  · simp only [hiff]
    exact ⟨fun _ => rfl, fun h => h.symm, fun h h' => h.trans h'⟩

/-- A retired id, a name and an id alone, the first two of one vendor; the first one meets a
pattern as the second one does. -/
theorem same_spelling_retired :
    builtin.HasPlainNames ∧
      (builtin.displayName? "Freescale:78" = some "NXP" ∧
        builtin.displayName? "NXP" = some "NXP" ∧
        builtin.displayName? ":100" = some "Cypress") ∧
      builtin.same "N?P" "Freescale:78" = builtin.same "N?P" "NXP" ∧
      (builtin.same "Freescale:78" ":100" = true ↔ "NXP" = "Cypress") := by
  have hretired : builtin.displayName? "Freescale:78" = some "NXP" := by decide +kernel
  have hname : builtin.displayName? "NXP" = some "NXP" := by decide +kernel
  have hid : builtin.displayName? ":100" = some "Cypress" := by decide +kernel
  obtain ⟨hspelling, hiff, -⟩ := same_spelling builtin_hasPlainNames
  exact ⟨builtin_hasPlainNames, ⟨hretired, hname, hid⟩,
    hspelling "N?P" "Freescale:78" "NXP" "NXP" hretired hname,
    hiff "Freescale:78" ":100" "NXP" "Cypress" hretired hid⟩

end Registry

end Vendor

end PackQuery
