import PackQuery.Proofs.CharSet
import PackQuery.Proofs.Regex.ClassMove

/-!
# Classes that list characters

A class may list its members in parts, with the operation `~~` between any two of them. If the
characters ascend with a gap between any two, then no part has a character of another, and the set
of the class has a range for each character (`readItems_parts`).
-/

namespace PackQuery.Regex

/-- The ranges of single characters. -/
def singles (s : List Char) : List (Nat × Nat) := s.map fun c => (c.toNat, c.toNat)

/-- Some texts with the mark of symmetric differences between any two. -/
def joinParts : List (List Char) → List Char
  | [] => []
  | [s] => s
  | s :: t :: parts => s ++ '~' :: '~' :: joinParts (t :: parts)

section
variable {s : List Char} {k : OpenClass} {outer : List OpenClass} {ts : List Token}
  {a : List (Nat × Nat)}

/-- Text without escapes has its characters for tokens. -/
theorem readFrom_of_not_mem (h : '\\' ∉ s) (rest : List Char) :
    Token.readFrom .outside (s ++ rest) =
      (Token.readFrom .outside rest).map (s.map Token.raw ++ ·) := by
  induction s with
  | nil => exact Option.map_id'.symm
  | cons c s ih =>
    obtain ⟨hc, hs⟩ := not_or.mp (mt List.mem_cons.mpr h)
    have hstep : Token.step .outside c = some (.inl (.raw c)) := by
      simp [Token.step, Ne.symm hc]
    rw [List.cons_append, Token.readFrom_cons, hstep, ih hs]
    simp [Function.comp_def]

/-- A class with more characters. -/
def OpenClass.addChars (k : OpenClass) (s : List Char) : OpenClass :=
  s.foldl (fun k c => k.add (.single c)) k

theorem addChars_members (k : OpenClass) (s : List Char) :
    (k.addChars s).members = (singles s).reverse ++ k.members := by
  induction s generalizing k with
  | nil => rfl
  | cons c s ih =>
    rw [OpenClass.addChars, List.foldl_cons]
    refine (ih (k.add (.single c))).trans ?_
    simp [singles, OpenClass.add, CharSet.single]

theorem addChars_before (k : OpenClass) (s : List Char) : (k.addChars s).before = k.before := by
  induction s generalizing k with
  | nil => rfl
  | cons c s ih => exact ih (k.add (.single c))

theorem addChars_negated (k : OpenClass) (s : List Char) : (k.addChars s).negated = k.negated := by
  induction s generalizing k with
  | nil => rfl
  | cons c s ih => exact ih (k.add (.single c))

theorem isRaw_eq_false {c d : Char} (hc : 0x80 ≤ c.toNat) (hd : d.toNat < 0x80) :
    (Token.raw c).isRaw d = false := by
  rw [Token.isRaw, beq_eq_false_iff_ne]
  rintro rfl
  omega

/-- **Characters beyond ASCII are members.** -/
theorem readItems_chars (h : ∀ c ∈ s, 0x80 ≤ c.toNat) (hts : NotFirst '-' ts) :
    readItems (k :: outer) (s.map Token.raw ++ ts) = readItems (k.addChars s :: outer) ts := by
  induction s generalizing k with
  | nil => rfl
  | cons c s ih =>
    obtain ⟨hc, hs⟩ := List.forall_mem_cons.mp h
    have hnext : NotFirst '-' (s.map Token.raw ++ ts) := by
      cases s with
      | nil => exact hts
      | cons d s => exact isRaw_eq_false (hs d List.mem_cons_self) (by decide)
    have hmarks : ∀ d ∈ ['[', ']', '^', '&', '-', '~'], (Token.raw c).isRaw d = false := by
      intro d hd
      refine isRaw_eq_false hc ?_
      simp only [List.mem_cons, List.not_mem_nil, or_false] at hd
      rcases hd with rfl | rfl | rfl | rfl | rfl | rfl <;> decide
    rw [List.map_cons, List.cons_append, readItems_member k outer hmarks hnext, ih hs]
    rfl

theorem readItems_symmetricDifference (k : OpenClass) (outer : List OpenClass) (ts : List Token) :
    readItems (k :: outer) (.raw '~' :: .raw '~' :: ts) =
      readItems (k.operate .symmetricDifference :: outer) ts := by
  have hstart : k.atStart? (.raw '~') = none := by
    cases hk : k.start <;> simp [OpenClass.atStart?, hk, Token.isRaw]
  rw [readItems_cons, move?.eq_def, hstart]
  rfl

theorem addChars_start (k : OpenClass) (h : s ≠ []) : (k.addChars s).start = .done := by
  induction s generalizing k with
  | nil => exact absurd rfl h
  | cons c s ih =>
    cases s with
    | nil => rfl
    | cons d s => exact ih (k.add (.single c)) (List.cons_ne_nil d s)

theorem readItems_close (h : k.start = .done) :
    readItems [k] [.raw ']'] = some [.oneOf k.close] := by
  have hstart : k.atStart? (.raw ']') = none := by rw [OpenClass.atStart?, h]
  rw [readItems_cons, move?.eq_def, hstart]
  show (readItems [] []).map _ = _
  rw [readItems_nil]
  rfl

/-- Whether a class has some ranges before its last operation, a symmetric difference, and no
members behind it. -/
structure OpenClass.Follows (k : OpenClass) (a : List (Nat × Nat)) : Prop where
  members : k.members = []
  negated : k.negated = false
  before : k.before = none ∧ a = [] ∨ k.before = some (⟨a⟩, .symmetricDifference)

theorem trim?_singles {r : Nat × Nat} (h : r ∈ singles s) : CharSet.trim? r = some r := by
  obtain ⟨c, -, rfl⟩ := List.mem_map.mp h
  have hvalid : c.toNat < 0xD800 ∨ 0xDFFF < c.toNat ∧ c.toNat < 0x110000 := c.valid
  have hsurrogate : CharSet.isSurrogate c.toNat = false := by
    rw [CharSet.isSurrogate, Bool.and_eq_false_iff, decide_eq_false_iff_not,
      decide_eq_false_iff_not]
    simp only [CharSet.firstSurrogate, CharSet.lastSurrogate]
    omega
  simp [CharSet.trim?, hsurrogate]

theorem isSeparate_singles (h : s.Pairwise fun c d => c.toNat + 1 < d.toNat) :
    CharSet.IsSeparate (singles s) where
  gap := List.pairwise_map.mpr h
  ordered r hr := by
    obtain ⟨c, -, rfl⟩ := List.mem_map.mp hr
    exact Nat.le_refl _

/-- The set so far of a class with one more part. -/
theorem OpenClass.Follows.sofar_addChars {front : List Char} (hk : k.Follows (singles front))
    (h : (front ++ s).Pairwise fun c d => c.toNat + 1 < d.toNat) :
    (k.addChars s).sofar = ⟨singles (front ++ s)⟩ := by
  have hseparate : CharSet.IsSeparate (singles front ++ singles s) := by
    rw [singles, singles, ← List.map_append]
    exact isSeparate_singles h
  have hlisted : CharSet.ofRanges (k.addChars s).members.reverse = ⟨singles s⟩ := by
    rw [addChars_members, hk.members, List.append_nil, List.reverse_reverse,
      CharSet.ofRanges_of_isSeparate hseparate.of_append.2]
  rw [OpenClass.sofar, hlisted, addChars_before]
  rcases hk.before with ⟨hbefore, hfront⟩ | hbefore
  · obtain rfl := List.map_eq_nil_iff.mp hfront
    rw [hbefore]
    rfl
  · rw [hbefore]
    show (CharSet.mk (singles front)).symmDiff ⟨singles s⟩ = _
    rw [CharSet.symmDiff_of_isSeparate hseparate, singles, singles, ← List.map_append]
    · rfl
    · exact fun r hr => (List.mem_append.mp hr).elim trim?_singles trim?_singles

/-- **A class that lists characters in parts** has a range for each character. -/
theorem readItems_parts {parts : List (List Char)} {front : List Char}
    (hk : k.Follows (singles front)) (hne : parts ≠ []) (hparts : ∀ s ∈ parts, s ≠ [])
    (hchars : ∀ s ∈ parts, ∀ c ∈ s, 0x80 ≤ c.toNat)
    (h : (front ++ parts.flatten).Pairwise fun c d => c.toNat + 1 < d.toNat) :
    readItems [k] ((joinParts parts).map Token.raw ++ [.raw ']']) =
      some [.oneOf ⟨singles (front ++ parts.flatten)⟩] := by
  induction parts generalizing k front with
  | nil => exact absurd rfl hne
  | cons s parts ih =>
    obtain ⟨hs, hrest⟩ := List.forall_mem_cons.mp hparts
    obtain ⟨hplain, hcharsRest⟩ := List.forall_mem_cons.mp hchars
    rw [List.flatten_cons, ← List.append_assoc] at h
    have hsofar := hk.sofar_addChars (List.pairwise_append.mp h).1
    cases parts with
    | nil =>
      have hclose : (k.addChars s).close = ⟨singles (front ++ s)⟩ := by
        rw [OpenClass.close, hsofar, addChars_negated, hk.negated]
        rfl
      have hend : NotFirst '-' [.raw ']'] := rfl
      rw [joinParts, readItems_chars hplain hend, readItems_close (addChars_start k hs), hclose]
      simp
    | cons t parts =>
      have hnext : ((k.addChars s).operate .symmetricDifference).Follows
          (singles (front ++ s)) :=
        ⟨rfl, (addChars_negated k s).trans hk.negated, Or.inr (by rw [← hsofar]; rfl)⟩
      have hread := ih hnext (List.cons_ne_nil t parts) hrest hcharsRest h
      have hmark : ∀ ts, NotFirst '-' (.raw '~' :: ts) := fun _ => rfl
      rw [joinParts, List.map_append, List.append_assoc, List.map_cons, List.map_cons,
        List.cons_append, List.cons_append, readItems_chars hplain (hmark _),
        readItems_symmetricDifference, hread, List.append_assoc]
      rfl

end

end PackQuery.Regex
