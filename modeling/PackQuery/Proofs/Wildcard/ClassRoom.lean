import PackQuery.Proofs.Regex.BroadForest
import PackQuery.Proofs.Wildcard.Reading

/-!
# A class that is too broad

A class that lists the characters of the broad forest is valid (`parse?_broadBody`). It has room in
front of one more character, but not on its own.
-/

namespace PackQuery.Wildcard

open Regex

/-! ## Classes that list characters -/

section
variable {parts : List (List Char)}

theorem mem_joinParts {c : Char} (h : c ∈ joinParts parts) : c = '~' ∨ ∃ s ∈ parts, c ∈ s := by
  fun_induction joinParts parts with
  | case1 => cases h
  | case2 s => exact Or.inr ⟨s, List.mem_singleton_self s, h⟩
  | case3 s t parts ih =>
    rcases List.mem_append.mp h with h | h
    · exact Or.inr ⟨s, List.mem_cons_self, h⟩
    · rcases List.mem_cons.mp h with rfl | h
      · exact Or.inl rfl
      · rcases List.mem_cons.mp h with rfl | h
        · exact Or.inl rfl
        · rcases ih h with hc | ⟨s', hs', hc⟩
          · exact Or.inl hc
          · exact Or.inr ⟨s', List.mem_cons_of_mem s hs', hc⟩

theorem joinParts_ne_nil (hne : parts ≠ []) (hparts : ∀ s ∈ parts, s ≠ []) :
    joinParts parts ≠ [] := by
  fun_cases joinParts parts with
  | case1 => exact absurd rfl hne
  | case2 s => exact hparts s List.mem_cons_self
  | case3 s t parts => exact List.append_ne_nil_of_right_ne_nil s (List.cons_ne_nil _ _)

/-- Characters beyond ASCII and the marks between them are no other marks. -/
theorem not_mem_joinParts (hchars : ∀ s ∈ parts, ∀ c ∈ s, 0x80 ≤ c.toNat) {d : Char}
    (hd : d.toNat < 0x80) (hne : d ≠ '~') : d ∉ joinParts parts := by
  intro h
  rcases mem_joinParts h with rfl | ⟨s, hs, hc⟩
  · exact hne rfl
  · have hfar := hchars s hs d hc
    omega

/-- **A class that lists characters in parts is valid,** and its set has a range for each. -/
theorem parse?_joinParts (hne : parts ≠ []) (hparts : ∀ s ∈ parts, s ≠ [])
    (hchars : ∀ s ∈ parts, ∀ c ∈ s, 0x80 ≤ c.toNat)
    (h : parts.flatten.Pairwise fun c d => c.toNat + 1 < d.toNat) :
    parse? (classText (joinParts parts)) = some [.oneOf ⟨singles parts.flatten⟩] := by
  have hplain : '\\' ∉ joinParts parts := not_mem_joinParts hchars (by decide) (by decide)
  have hstart : OpenClass.Follows {} (singles []) := ⟨rfl, rfl, Or.inl ⟨rfl, rfl⟩⟩
  rw [classText, parse?_bracket, Token.read?, readFrom_of_not_mem hplain]
  exact readItems_parts hstart hne hparts hchars h

end

/-! ## The segments of a class -/

theorem splitClass?_cons {c : Char} {tail : List Char} (hc : c ≠ '^') (h : ']' ∉ tail)
    (rest : List Char) : splitClass? (c :: (tail ++ ']' :: rest)) = some (c :: tail, rest) := by
  rw [splitClass?, closeClass?, Chars.cut?_append_cons h]
  · rfl
  · exact fun _ _ heq _ => hc heq

theorem segments?_bracket {s body rest : List Char} (h : splitClass? s = some (body, rest)) :
    segments? ('[' :: s) = (segments? rest).map (.bracket body :: ·) := by
  rw [segments?, if_pos rfl]
  split
  · rename_i hsplit
    cases h.symm.trans hsplit
    rfl
  · rename_i hsplit
    cases h.symm.trans hsplit

theorem segments?_classText {body : List Char} (hne : body ≠ []) (hcaret : '^' ∉ body)
    (hclose : ']' ∉ body) (rest : List Char) :
    segments? (classText body ++ rest) = (segments? rest).map (.bracket body :: ·) := by
  obtain ⟨c, tail, rfl⟩ := List.exists_cons_of_ne_nil hne
  have hsplit := splitClass?_cons (Ne.symm (List.ne_of_not_mem_cons hcaret))
    (List.not_mem_of_not_mem_cons hclose) rest
  rw [← segments?_bracket hsplit, classText]
  simp

/-! ## The broad class -/

/-- The body of the class that lists the characters of the broad forest. -/
def broadBody : List Char := joinParts Forest.members

/-- The set of that class. -/
def broadSet : CharSet := ⟨singles Forest.members.flatten⟩

theorem isBroad_broadSet : Room.IsBroad broadSet := Forest.isBroad_members

theorem broadBody_far : ∀ s ∈ Forest.members, ∀ c ∈ s, 0x80 ≤ c.toNat := by
  intro s hs c hc
  have hmem : c ∈ Forest.members.flatten := List.mem_flatten_of_mem hs hc
  rw [Forest.flatten_members] at hmem
  obtain ⟨q, hq, rfl⟩ := List.mem_map.mp hmem
  exact Nat.le_trans (by decide) (Forest.toNat_member hq).2.1

theorem broadBody_parts : Forest.members ≠ [] ∧ ∀ s ∈ Forest.members, s ≠ [] := by
  refine ⟨fun hnil => ?_, fun s hs => ?_⟩
  · have hlength := Forest.length_broad
    have hflatten := Forest.flatten_members
    rw [hnil, List.flatten_nil, eq_comm, List.map_eq_nil_iff] at hflatten
    rw [hflatten] at hlength
    cases hlength
  · obtain ⟨t, ht, rfl⟩ := List.mem_map.mp hs
    exact mt List.map_eq_nil_iff.mp (Forest.ne_nil_of_mem_parts ht)

theorem parse?_broadBody : parse? (classText broadBody) = some [.oneOf broadSet] :=
  parse?_joinParts broadBody_parts.1 broadBody_parts.2 broadBody_far Forest.pairwise_members

theorem segments?_broadBody (rest : List Char) :
    segments? (classText broadBody ++ rest) = (segments? rest).map (.bracket broadBody :: ·) :=
  segments?_classText (joinParts_ne_nil broadBody_parts.1 broadBody_parts.2)
    (not_mem_joinParts broadBody_far (by decide) (by decide))
    (not_mem_joinParts broadBody_far (by decide) (by decide)) rest

/-- The items of the class and of what follows it. -/
theorem items?_broadBody (segs : List Segment) :
    items? (.bracket broadBody :: segs) = (items? segs).map (.oneOf broadSet :: ·) := by
  have hitem : (Segment.bracket broadBody).item? = some (.oneOf broadSet) := by
    rw [Segment.item?, classSet?, parse?_broadBody]
    rfl
  have hcons := bind_items?_cons (.bracket broadBody) (some segs)
  rwa [hitem, Option.map_some, Option.bind_some, Option.bind_some, Option.bind_some] at hcons

end PackQuery.Wildcard
