import PackQuery.Text.Cut

/-!
# First and last places in a text

The cuts of a text are defined by recursion or by taking and dropping. Here they are described by
the places where the text is cut.

**Behind the first place** (`afterFirst?_eq_some_iff`). Cutting behind a needle gives what follows
the place with the least in front of it, and there is such a place if the needle occurs at all.

**Around the first place** (`cut?_eq_some`). Cutting at a needle loses nothing else, and at a
delimiter it leaves none in front.

**Behind the last delimiter** (`afterLast_isSuffix`). What follows the last delimiter ends what
follows any other one.

**Texts put together** (`Text.append_inj_of_isTail`). A tail starts with a mark. If the mark does
not stand in front of it, the whole text tells where the tail begins.

**Bytes** (`Text.byte_mem_of_mem`). A character of one byte can be looked for among the bytes of a
text, which takes less than decoding the text.
-/

namespace PackQuery.Chars

/-! ## Behind the first place -/

/-- Whether `t` follows the first place where `needle` stands in `s`. -/
def FollowsFirst (needle s t : List Char) : Prop :=
  ∃ front, s = front ++ needle ++ t ∧
    ∀ front' t', s = front' ++ needle ++ t' → front.length ≤ front'.length

theorem followsFirst_of_isPrefix {needle s : List Char} (h : needle <+: s) (t : List Char) :
    FollowsFirst needle s t ↔ s.drop needle.length = t := by
  obtain ⟨rest, rfl⟩ := h
  rw [List.drop_left]
  constructor
  · rintro ⟨front, heq, hfirst⟩
    have hfront : front = [] := List.length_eq_zero_iff.mp (Nat.le_zero.mp (hfirst [] rest rfl))
    rw [hfront, List.nil_append] at heq
    exact List.append_cancel_left heq
  · rintro rfl
    exact ⟨[], rfl, fun _ _ _ => Nat.zero_le _⟩

/-- A needle that does not stand at the first character stands behind it. -/
theorem eq_cons_of_not_isPrefix {needle front rest t : List Char} {c : Char}
    (h : ¬needle <+: c :: rest) (heq : c :: rest = front ++ needle ++ t) :
    ∃ front', front = c :: front' ∧ rest = front' ++ needle ++ t := by
  cases front with
  | nil => exact absurd ⟨t, heq.symm⟩ h
  | cons d front' =>
    injection heq with hd heq
    exact ⟨front', hd ▸ rfl, heq⟩

theorem followsFirst_cons {needle rest : List Char} {c : Char} (h : ¬needle <+: c :: rest)
    (t : List Char) : FollowsFirst needle (c :: rest) t ↔ FollowsFirst needle rest t := by
  constructor
  · rintro ⟨front, heq, hfirst⟩
    obtain ⟨front', rfl, heq'⟩ := eq_cons_of_not_isPrefix h heq
    exact ⟨front', heq', fun front'' t' h' =>
      Nat.le_of_succ_le_succ (hfirst (c :: front'') t' (congrArg (c :: ·) h'))⟩
  · rintro ⟨front, heq, hfirst⟩
    refine ⟨c :: front, congrArg (c :: ·) heq, fun front' t' h' => ?_⟩
    obtain ⟨front'', rfl, heq'⟩ := eq_cons_of_not_isPrefix h h'
    exact Nat.succ_le_succ (hfirst front'' t' heq')

theorem not_followsFirst_nil {d : Char} {needle t : List Char} :
    ¬FollowsFirst (d :: needle) [] t := by
  rintro ⟨front, heq, -⟩
  simp at heq

/-- **Cutting behind a needle cuts at its first place.** -/
theorem afterFirst?_eq_some_iff {needle s t : List Char} :
    afterFirst? needle s = some t ↔ FollowsFirst needle s t := by
  induction s with
  | nil =>
    cases needle with
    | nil =>
      rw [followsFirst_of_isPrefix List.nil_prefix]
      exact Option.some_inj
    | cons d needle => exact ⟨fun h => (nomatch h), fun h => absurd h not_followsFirst_nil⟩
  | cons c rest ih =>
    rw [afterFirst?]
    split
    · rename_i h
      rw [followsFirst_of_isPrefix (List.isPrefixOf_iff_prefix.mp h), Option.some_inj]
    · rename_i h
      rw [ih, followsFirst_cons (mt List.isPrefixOf_iff_prefix.mpr h)]

theorem FollowsFirst.unique {needle s t u : List Char} (ht : FollowsFirst needle s t)
    (hu : FollowsFirst needle s u) : t = u := by
  rw [← afterFirst?_eq_some_iff] at ht hu
  exact Option.some_inj.mp (ht.symm.trans hu)

theorem exists_afterFirst? {needle s : List Char} (h : needle <:+: s) :
    ∃ t, afterFirst? needle s = some t := by
  induction s with
  | nil =>
    rw [List.infix_nil.mp h]
    exact ⟨[], rfl⟩
  | cons c rest ih =>
    rw [afterFirst?]
    split
    · exact ⟨_, rfl⟩
    · rename_i hnot
      exact ih ((List.infix_cons_iff.mp h).resolve_left (mt List.isPrefixOf_iff_prefix.mpr hnot))

/-- Behind a needle at the front follows the rest. -/
theorem afterFirst?_append (needle s : List Char) : afterFirst? needle (needle ++ s) = some s := by
  rw [afterFirst?_eq_some_iff, followsFirst_of_isPrefix (List.prefix_append needle s),
    List.drop_left]

/-- The first place of a single character is the first delimiter. -/
theorem afterFirst?_singleton (d : Char) (s : List Char) : afterFirst? [d] s = after? d s := by
  induction s with
  | nil => rfl
  | cons c rest ih =>
    rw [afterFirst?, ih]
    by_cases h : c = d
    · subst h
      simp [after?]
    · simp [after?, h, Ne.symm h]

/-! ## Around the first place -/

theorem cut?_eq_some {needle s before after : List Char}
    (h : cut? needle s = some (before, after)) : s = before ++ needle ++ after := by
  induction s generalizing before with
  | nil =>
    unfold cut? at h
    split at h
    · cases h
      simpa using ‹needle.isEmpty = true›
    · cases h
  | cons c rest ih =>
    rw [cut?] at h
    split at h
    · rename_i hfirst
      obtain ⟨t, ht⟩ := List.isPrefixOf_iff_prefix.mp hfirst
      cases h
      rw [← ht, List.drop_left, List.nil_append]
    · obtain ⟨⟨before', after'⟩, hcut, heq⟩ := Option.map_eq_some_iff.mp h
      cases heq
      exact congrArg (c :: ·) (ih hcut)

theorem cut?_singleton_cons (d c : Char) (rest : List Char) :
    cut? [d] (c :: rest) =
      if c = d then some ([], rest)
      else (cut? [d] rest).map fun (before, after) => (c :: before, after) := by
  rw [cut?]
  by_cases h : c = d
  · subst h
    simp
  · simp [h, Ne.symm h]

/-- The characters before the first delimiter do not contain it. -/
theorem not_mem_of_cut? {d : Char} {s before after : List Char}
    (h : cut? [d] s = some (before, after)) : d ∉ before := by
  induction s generalizing before with
  | nil => cases h
  | cons c rest ih =>
    rw [cut?_singleton_cons] at h
    split at h
    · cases h
      exact List.not_mem_nil
    · rename_i hne
      obtain ⟨⟨before', after'⟩, hcut, heq⟩ := Option.map_eq_some_iff.mp h
      cases heq
      simp [Ne.symm hne, ih hcut]

theorem cut?_append_cons {d : Char} {s : List Char} (h : d ∉ s) (t : List Char) :
    cut? [d] (s ++ d :: t) = some (s, t) := by
  induction s with
  | nil => rw [List.nil_append, cut?_singleton_cons, if_pos rfl]
  | cons c s ih =>
    obtain ⟨hc, hs⟩ := not_or.mp (mt List.mem_cons.mpr h)
    rw [List.cons_append, cut?_singleton_cons, if_neg (Ne.symm hc), ih hs]
    rfl

theorem cut?_eq_none_iff {d : Char} {s : List Char} : cut? [d] s = none ↔ d ∉ s := by
  induction s with
  | nil => simp [cut?]
  | cons c rest ih =>
    rw [cut?_singleton_cons]
    by_cases h : c = d
    · simp [h]
    · simp [h, Ne.symm h, ih]

/-- What stands in front of the first delimiter of a beginning does so in the whole text. -/
theorem before_isPrefix {s t : List Char} (h : s <+: t) (d : Char) : before d s <+: before d t := by
  obtain ⟨rest, rfl⟩ := h
  rw [before, before, List.takeWhile_append]
  split
  · exact (List.takeWhile_prefix _).trans (List.prefix_append s _)
  · exact List.prefix_rfl

/-! ## Behind the last delimiter -/

theorem takeWhile_append_cons {p : Char → Bool} {d : Char} (hd : p d = false)
    (s t : List Char) : (s ++ d :: t).takeWhile p = s.takeWhile p := by
  induction s with
  | nil => simp [hd]
  | cons c s ih => simp [List.takeWhile_cons, ih]

theorem afterLast_isSuffix (d : Char) (s t : List Char) : afterLast d (s ++ d :: t) <:+ t := by
  rw [afterLast, if_pos (by simp), List.reverse_append, List.reverse_cons, List.append_assoc,
    List.singleton_append, takeWhile_append_cons (by simp), ← List.reverse_prefix,
    List.reverse_reverse]
  exact List.takeWhile_prefix _

end PackQuery.Chars

namespace PackQuery.Text

/-! ## Behind the first place -/

theorem afterFirst_append (needle s : String) : afterFirst needle (needle ++ s) = s := by
  rw [afterFirst, String.toList_append, Chars.afterFirst?_append]
  exact String.ofList_toList

theorem afterFirst_append_separator {d : Char} {separator : String}
    (h : separator.toList = [d]) {s : String} (hs : d ∉ s.toList) (t : String) :
    afterFirst separator (s ++ separator ++ t) = t := by
  rw [afterFirst, toList_append_separator h, h, Chars.afterFirst?_singleton,
    Chars.after?_append_cons hs]
  exact String.ofList_toList

/-! ## Texts put together -/

/-- Whether a text is empty or starts with a mark. -/
def IsTail (mark : Char) (t : String) : Prop := t = "" ∨ t.toList.head? = some mark

theorem isTail_append {mark : Char} {s : String} (h : s.toList.head? = some mark) (t : String) :
    IsTail mark (s ++ t) :=
  Or.inr (by simp [h])

theorem before_append_of_isTail {mark : Char} {s t : String} (hs : mark ∉ s.toList)
    (ht : IsTail mark t) : before mark (s ++ t) = s := by
  rw [before, String.toList_append]
  rcases ht with rfl | hhead
  · simp [Chars.before_of_not_mem hs]
  · obtain ⟨rest, hrest⟩ := List.head?_eq_some_iff.mp hhead
    rw [hrest, Chars.before_append_cons hs, String.ofList_toList]

/-- **A tail is told from what stands before it** if its mark does not stand there. -/
theorem append_inj_of_isTail {mark : Char} {s s' t t' : String} (hs : mark ∉ s.toList)
    (hs' : mark ∉ s'.toList) (ht : IsTail mark t) (ht' : IsTail mark t')
    (h : s ++ t = s' ++ t') : s = s' ∧ t = t' := by
  have hfront : s = s' := by
    rw [← before_append_of_isTail hs ht, h, before_append_of_isTail hs' ht']
  rw [hfront, String.append_right_inj] at h
  exact ⟨hfront, h⟩

/-- The last part is told from what stands before it if its mark does not stand in it. -/
theorem append_separator_inj {mark : Char} {separator s s' t t' : String}
    (hmark : separator.toList = [mark]) (ht : mark ∉ t.toList) (ht' : mark ∉ t'.toList)
    (h : s ++ separator ++ t = s' ++ separator ++ t') : s = s' ∧ t = t' := by
  have hback : t = t' := by
    rw [← afterLast_append_separator hmark ht s, h, afterLast_append_separator hmark ht' s']
  rw [hback, String.append_left_inj, String.append_left_inj] at h
  exact ⟨h, hback⟩

/-! ## Bytes -/

/-- A character of one byte is in a text only if its byte is in the UTF-8 form. -/
theorem byte_mem_of_mem {c : Char} {s : String} (hc : c.utf8Size = 1)
    (h : c ∈ s.toList) : c.val.toUInt8 ∈ s.toByteArray.data.toList := by
  rw [← String.utf8Encode_toList, List.utf8Encode, List.data_toByteArray, List.mem_flatMap]
  exact ⟨c, h, String.utf8EncodeChar_eq_singleton hc ▸ List.mem_singleton_self _⟩

end PackQuery.Text
