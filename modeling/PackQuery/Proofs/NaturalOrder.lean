import Mathlib.Algebra.Order.Ring.Int
import PackQuery.Text.NaturalOrder

/-!
# The natural order compares token lists

The natural order walks along two byte sequences at once, and the two walks may advance by
different steps where digit runs meet. Here each sequence is cut into *tokens* on its own: a
maximal run of digits is one number, and any other byte stands for itself.

**Runs are numbers** (`compareRuns_eq`). Without leading zeros the longer run is the greater
number, and runs of one length compare like their digits.

**Tokens** (`compareBytes_eq_compareLex`). The natural order is the lexicographic order of the
token lists. It is a total preorder, because the order of tokens is one.

**Texts** (`compare_eq_compareLex_tokens`). The order of tokens is the one that it has to be
(`IsTokenOrder`), and tokens that compare equal are equal. So texts compare equal exactly if they
have the same tokens.
-/

namespace PackQuery

/-- Values are preordered by a part of theirs that is. -/
theorem transCmp_comap {α β : Type} (cmp : β → β → Ordering) [Std.TransCmp cmp] (f : α → β) :
    Std.TransCmp fun a b => cmp (f a) (f b) where
  eq_swap {a b} := @Std.OrientedCmp.eq_swap _ cmp _ (f a) (f b)
  isLE_trans {a b c} := @Std.TransCmp.isLE_trans _ cmp _ (f a) (f b) (f c)

namespace NaturalOrder

/-! ## The numbers of digit runs -/

/-- The number that a digit run denotes. -/
def runValue : List UInt8 → Nat
  | [] => 0
  | b :: bs => (b.toNat - 48) * 10 ^ bs.length + runValue bs

theorem isDigit_iff {b : UInt8} : isDigit b = true ↔ 48 ≤ b.toNat ∧ b.toNat ≤ 57 := by
  simp [isDigit, UInt8.le_iff_toNat_le]

theorem runValue_lt {run : List UInt8} (h : ∀ b ∈ run, isDigit b) :
    runValue run < 10 ^ run.length := by
  induction run with
  | nil => exact Nat.one_pos
  | cons b bs ih =>
    obtain ⟨hb, hbs⟩ := List.forall_mem_cons.mp h
    have hd : b.toNat - 48 ≤ 9 := by
      have := isDigit_iff.mp hb
      omega
    have hmul : (b.toNat - 48) * 10 ^ bs.length ≤ 9 * 10 ^ bs.length :=
      Nat.mul_le_mul_right _ hd
    have hrest := ih hbs
    rw [runValue, List.length_cons, Nat.pow_succ]
    omega

/-- Leading zeros do not change the number. -/
theorem runValue_dropWhile (run : List UInt8) :
    runValue (run.dropWhile (· == 48)) = runValue run := by
  induction run with
  | nil => rfl
  | cons b bs ih =>
    rw [List.dropWhile_cons]
    split
    · rename_i h
      rw [ih, runValue, eq_of_beq h]
      simp
    · rfl

/-- Without its leading zeros a run starts with no zero. -/
theorem head?_dropWhile_zero (run : List UInt8) :
    (run.dropWhile (· == 48)).head? ≠ some 48 := by
  intro h
  have hnot := List.head?_dropWhile_not (· == 48) run
  rw [h] at hnot
  cases hnot

theorem le_runValue_cons {b : UInt8} (bs : List UInt8) (hb : isDigit b) (h0 : b ≠ 48) :
    10 ^ bs.length ≤ runValue (b :: bs) := by
  have hd : 1 ≤ b.toNat - 48 := by
    have h := isDigit_iff.mp hb
    have : b.toNat ≠ 48 := fun he => h0 (UInt8.toNat_inj.mp he)
    omega
  calc 10 ^ bs.length = 1 * 10 ^ bs.length := (Nat.one_mul _).symm
    _ ≤ (b.toNat - 48) * 10 ^ bs.length := Nat.mul_le_mul_right _ hd
    _ ≤ runValue (b :: bs) := Nat.le_add_right _ _

/-- A run without leading zeros that is longer than another one denotes a greater number. -/
theorem runValue_lt_of_length_lt {a b : List UInt8} (ha : ∀ x ∈ a, isDigit x)
    (hb : ∀ x ∈ b, isDigit x) (h0 : b.head? ≠ some 48) (hlen : a.length < b.length) :
    runValue a < runValue b := by
  cases b with
  | nil => exact absurd hlen (Nat.not_lt_zero _)
  | cons d ds =>
    have hd : d ≠ 48 := fun he => h0 (congrArg some he)
    calc runValue a < 10 ^ a.length := runValue_lt ha
      _ ≤ 10 ^ ds.length := Nat.pow_le_pow_right (by decide) (Nat.le_of_lt_succ hlen)
      _ ≤ runValue (d :: ds) := le_runValue_cons ds (hb d List.mem_cons_self) hd

/-- Bytes are ordered by their values. -/
theorem compare_toNat (x y : UInt8) : Ord.compare x.toNat y.toNat = Ord.compare x y := by
  rcases Nat.lt_trichotomy x.toNat y.toNat with h | h | h
  · rw [Nat.compare_eq_lt.mpr h, Std.compare_eq_lt.mpr (UInt8.lt_iff_toNat_lt.mpr h)]
  · rw [UInt8.toNat_inj.mp h, Std.compare_self, Std.compare_self]
  · rw [Nat.compare_eq_gt.mpr h, Std.compare_eq_gt.mpr (UInt8.lt_iff_toNat_lt.mpr h)]

/-- A greater first digit gives a greater number, whatever follows. -/
theorem runValue_cons_lt {x y : UInt8} {xs ys : List UInt8} (hy : 48 ≤ x.toNat)
    (hxs : ∀ b ∈ xs, isDigit b) (hlen : xs.length = ys.length) (h : x.toNat < y.toNat) :
    runValue (x :: xs) < runValue (y :: ys) := by
  have hmul : (x.toNat - 48 + 1) * 10 ^ ys.length ≤ (y.toNat - 48) * 10 ^ ys.length :=
    Nat.mul_le_mul_right _ (by omega)
  have hrest := runValue_lt hxs
  rw [hlen] at hrest
  rw [Nat.add_mul, Nat.one_mul] at hmul
  rw [runValue, runValue, hlen]
  omega

/-- Of two runs of one length, the first digit that differs decides. -/
theorem compare_eq_compare_runValue {a b : List UInt8} (ha : ∀ x ∈ a, isDigit x)
    (hb : ∀ x ∈ b, isDigit x) (hlen : a.length = b.length) :
    Ord.compare a b = Ord.compare (runValue a) (runValue b) := by
  induction a generalizing b with
  | nil => rw [List.length_eq_zero_iff.mp hlen.symm]; rfl
  | cons x xs ih =>
    cases b with
    | nil => cases hlen
    | cons y ys =>
      obtain ⟨hx, hxs⟩ := List.forall_mem_cons.mp ha
      obtain ⟨hy, hys⟩ := List.forall_mem_cons.mp hb
      have hlen' : xs.length = ys.length := Nat.succ.inj hlen
      rw [List.compare_cons_cons, ← compare_toNat, ih hxs hys hlen']
      rcases Nat.lt_trichotomy x.toNat y.toNat with h | h | h
      · have hlt := runValue_cons_lt (isDigit_iff.mp hx).1 hxs hlen' h
        rw [Nat.compare_eq_lt.mpr h, Nat.compare_eq_lt.mpr hlt, Ordering.lt_then]
      · rw [h, Std.compare_self, Ordering.eq_then, runValue, runValue, h, hlen']
        simp [Nat.compare_eq_ite_lt]
      · have hlt := runValue_cons_lt (isDigit_iff.mp hy).1 hys hlen'.symm h
        rw [Nat.compare_eq_gt.mpr h, Nat.compare_eq_gt.mpr hlt, Ordering.gt_then]

/-- The order of digit runs is the order of the numbers that they denote. -/
theorem compareRuns_eq {a b : List UInt8} (ha : ∀ x ∈ a, isDigit x) (hb : ∀ x ∈ b, isDigit x) :
    compareRuns a b = Ord.compare (runValue a) (runValue b) := by
  rw [← runValue_dropWhile a, ← runValue_dropWhile b]
  have ha' : ∀ x ∈ a.dropWhile (· == 48), isDigit x :=
    fun x hx => ha x ((List.dropWhile_sublist _).mem hx)
  have hb' : ∀ x ∈ b.dropWhile (· == 48), isDigit x :=
    fun x hx => hb x ((List.dropWhile_sublist _).mem hx)
  have ha0 := head?_dropWhile_zero a
  have hb0 := head?_dropWhile_zero b
  unfold compareRuns
  dsimp only
  generalize a.dropWhile (· == 48) = a at ha' ha0 ⊢
  generalize b.dropWhile (· == 48) = b at hb' hb0 ⊢
  rcases Nat.lt_trichotomy a.length b.length with h | h | h
  · rw [Nat.compare_eq_lt.mpr h, Ordering.lt_then,
      Nat.compare_eq_lt.mpr (runValue_lt_of_length_lt ha' hb' hb0 h)]
  · rw [h, Std.compare_self, Ordering.eq_then, compare_eq_compare_runValue ha' hb' h]
  · rw [Nat.compare_eq_gt.mpr h, Ordering.gt_then,
      Nat.compare_eq_gt.mpr (runValue_lt_of_length_lt hb' ha' ha0 h)]

/-! ## Tokens -/

/-- What a byte sequence is compared by. -/
inductive Token where
  /-- The number of a digit run. -/
  | number (n : Nat)
  /-- A byte outside of digit runs, as it counts in a comparison. -/
  | byte (b : UInt8)
deriving DecidableEq, Repr

namespace Token

/-- Where a token stands as a whole: numbers stand among the other bytes where the digits do. -/
def place : Token → Nat
  | number _ => 1
  | byte b => if b < 48 then 0 else 2

/-- What orders the tokens of one place. -/
def value : Token → Nat
  | number n => n
  | byte b => b.toNat

/-- The order of tokens. -/
def compare : Token → Token → Ordering :=
  compareLex (compareOn place) (compareOn value)

instance : Std.TransCmp compare :=
  inferInstanceAs (Std.TransCmp (compareLex (compareOn place) (compareOn value)))

theorem place_byte_ne (n : Nat) (b : UInt8) : place (.byte b) ≠ place (.number n) := by
  show (if b < 48 then 0 else 2) ≠ 1
  split <;> decide

instance : Std.LawfulEqCmp compare where
  eq_of_compare {s t} h := by
    have hparts : s.place = t.place ∧ s.value = t.value := by
      simpa [compare, compareLex, compareOn] using h
    cases s with
    | number m =>
      cases t with
      | number n => exact congrArg number hparts.2
      | byte y => exact absurd hparts.1.symm (place_byte_ne m y)
    | byte x =>
      cases t with
      | number n => exact absurd hparts.1 (place_byte_ne n x)
      | byte y => exact congrArg byte (UInt8.toNat_inj.mp hparts.2)

end Token

/-- The tokens of a byte sequence. -/
def tokens (sensitive : Bool) : List UInt8 → List Token
  | [] => []
  | b :: bs =>
    if isDigit b then
      .number (runValue (b :: bs.takeWhile isDigit)) :: tokens sensitive (bs.dropWhile isDigit)
    else .byte (folded sensitive b) :: tokens sensitive bs
termination_by bs => bs.length
decreasing_by
  · exact Nat.lt_succ_of_le (length_dropWhile_le _ _)
  · exact Nat.lt_succ_self _

theorem compare_number (m n : Nat) :
    Token.compare (.number m) (.number n) = Ord.compare m n := by
  simp [Token.compare, compareLex, compareOn, Token.place, Token.value]

theorem toNat_upper (b : UInt8) :
    (upper b).toNat = if 97 ≤ b.toNat ∧ b.toNat ≤ 122 then b.toNat - 32 else b.toNat := by
  have hletter : (97 ≤ b && b ≤ 122) = true ↔ 97 ≤ b.toNat ∧ b.toNat ≤ 122 := by
    simp [UInt8.le_iff_toNat_le]
  unfold upper
  by_cases h : 97 ≤ b.toNat ∧ b.toNat ≤ 122
  · rw [if_pos (hletter.mpr h), if_pos h]
    exact UInt8.toNat_sub_of_le _ _ (UInt8.le_iff_toNat_le.mpr (Nat.le_trans (by decide) h.1))
  · rw [if_neg (mt hletter.mp h), if_neg h]

/-- Folding neither makes nor removes digits. -/
theorem isDigit_folded (sensitive : Bool) (b : UInt8) :
    isDigit (folded sensitive b) = isDigit b := by
  cases sensitive with
  | true => rfl
  | false =>
    show isDigit (upper b) = isDigit b
    rw [Bool.eq_iff_iff, isDigit_iff, isDigit_iff, toNat_upper]
    split <;> omega

theorem folded_of_isDigit (sensitive : Bool) {b : UInt8} (h : isDigit b) :
    folded sensitive b = b := by
  have hb := isDigit_iff.mp h
  cases sensitive with
  | true => rfl
  | false =>
    show upper b = b
    rw [← UInt8.toNat_inj, toNat_upper, if_neg (by omega)]

/-- Bytes are ordered by their values. -/
theorem compare_byte (x y : UInt8) :
    Token.compare (.byte x) (.byte y) = Ord.compare x y := by
  simp only [Token.compare, compareLex, compareOn, Token.place, Token.value, ← compare_toNat,
    UInt8.lt_iff_toNat_lt, Nat.compare_eq_ite_lt]
  grind

/-- A number is to another byte as any digit is. -/
theorem compare_number_byte (n : Nat) {d y : UInt8} (hd : isDigit d) (hy : isDigit y = false) :
    Token.compare (.number n) (.byte y) = Ord.compare d y := by
  have hd' := isDigit_iff.mp hd
  have hy' : y.toNat < 48 ∨ 57 < y.toNat := by
    have := mt isDigit_iff.mpr (Bool.eq_false_iff.mp hy)
    omega
  rcases hy' with h | h
  · have hplace : Token.place (.byte y) = 0 := if_pos (UInt8.lt_iff_toNat_lt.mpr h)
    have hgt : y.toNat < d.toNat := by omega
    simp only [Token.compare, compareLex, compareOn, hplace]
    rw [← compare_toNat, Nat.compare_eq_gt.mpr hgt]
    rfl
  · have hplace : Token.place (.byte y) = 2 :=
      if_neg fun hlt => by have := UInt8.lt_iff_toNat_lt.mp hlt; simp at this; omega
    have hlt : d.toNat < y.toNat := by omega
    simp only [Token.compare, compareLex, compareOn, hplace]
    rw [← compare_toNat, Nat.compare_eq_lt.mpr hlt]
    rfl

theorem compare_byte_number (n : Nat) {x d : UInt8} (hx : isDigit x = false) (hd : isDigit d) :
    Token.compare (.byte x) (.number n) = Ord.compare x d := by
  rw [@Std.OrientedCmp.eq_swap _ Token.compare, compare_number_byte n hd hx,
    ← Std.OrientedOrd.eq_swap]

/-- What an order of tokens has to be: numbers are ordered by their values, other bytes by theirs,
and a number is to another byte as any digit is. -/
structure IsTokenOrder (cmp : Token → Token → Ordering) : Prop where
  number : ∀ m n, cmp (.number m) (.number n) = Ord.compare m n
  byte : ∀ x y, isDigit x = false → isDigit y = false → cmp (.byte x) (.byte y) = Ord.compare x y
  number_byte : ∀ n d y, isDigit d → isDigit y = false →
    cmp (.number n) (.byte y) = Ord.compare d y
  byte_number : ∀ n x d, isDigit x = false → isDigit d →
    cmp (.byte x) (.number n) = Ord.compare x d

theorem isTokenOrder_compare : IsTokenOrder Token.compare where
  number := compare_number
  byte x y _ _ := compare_byte x y
  number_byte n _ _ := compare_number_byte n
  byte_number n _ _ := compare_byte_number n

theorem tokens_cons_of_isDigit (sensitive : Bool) {b : UInt8} (bs : List UInt8)
    (h : isDigit b) :
    tokens sensitive (b :: bs) =
      .number (runValue (b :: bs.takeWhile isDigit)) ::
        tokens sensitive (bs.dropWhile isDigit) := by
  rw [tokens, if_pos h]

theorem tokens_cons_of_not_isDigit (sensitive : Bool) {b : UInt8} (bs : List UInt8)
    (h : isDigit b = false) :
    tokens sensitive (b :: bs) = .byte (folded sensitive b) :: tokens sensitive bs := by
  rw [tokens, if_neg (by simp [h])]

theorem exists_tokens_eq_cons (sensitive : Bool) (b : UInt8) (bs : List UInt8) :
    ∃ t ts, tokens sensitive (b :: bs) = t :: ts := by
  cases h : isDigit b with
  | false => exact ⟨_, _, tokens_cons_of_not_isDigit sensitive bs h⟩
  | true => exact ⟨_, _, tokens_cons_of_isDigit sensitive bs h⟩

theorem isDigit_of_mem_run {b : UInt8} {bs : List UInt8} (h : isDigit b) :
    ∀ x ∈ b :: bs.takeWhile isDigit, isDigit x :=
  List.forall_mem_cons.mpr ⟨h, fun _ hx => List.all_eq_true.mp List.all_takeWhile _ hx⟩

/-! ## The natural order on tokens -/

theorem then_of_ne_eq {o o' : Ordering} (h : o ≠ .eq) : o.then o' = o := by
  cases o with
  | eq => exact absurd rfl h
  | lt | gt => rfl

/-- Where two digit runs meet, their numbers are compared first. -/
theorem compareLex_tokens_runs (sensitive : Bool) {a b : UInt8} (as bs : List UInt8)
    (ha : isDigit a) (hb : isDigit b) :
    List.compareLex Token.compare (tokens sensitive (a :: as)) (tokens sensitive (b :: bs)) =
      (compareRuns (a :: as.takeWhile isDigit) (b :: bs.takeWhile isDigit)).then
        (List.compareLex Token.compare (tokens sensitive (as.dropWhile isDigit))
          (tokens sensitive (bs.dropWhile isDigit))) := by
  rw [tokens_cons_of_isDigit sensitive as ha, tokens_cons_of_isDigit sensitive bs hb,
    List.compareLex_cons_cons, compare_number,
    compareRuns_eq (isDigit_of_mem_run ha) (isDigit_of_mem_run hb)]

/-- Where the first bytes are different and not both digits, they decide. -/
theorem compareLex_tokens_bytes (sensitive : Bool) {a b : UInt8} (as bs : List UInt8)
    (hdigits : ¬(isDigit a && isDigit b))
    (hne : Ord.compare (folded sensitive a) (folded sensitive b) ≠ .eq) :
    List.compareLex Token.compare (tokens sensitive (a :: as)) (tokens sensitive (b :: bs)) =
      Ord.compare (folded sensitive a) (folded sensitive b) := by
  cases ha : isDigit a <;> cases hb : isDigit b
  · rw [tokens_cons_of_not_isDigit sensitive as ha, tokens_cons_of_not_isDigit sensitive bs hb,
      List.compareLex_cons_cons, compare_byte, then_of_ne_eq hne]
  · have ha' : isDigit (folded sensitive a) = false := by rw [isDigit_folded, ha]
    rw [folded_of_isDigit sensitive hb] at hne ⊢
    rw [tokens_cons_of_not_isDigit sensitive as ha, tokens_cons_of_isDigit sensitive bs hb,
      List.compareLex_cons_cons, compare_byte_number _ ha' hb, then_of_ne_eq hne]
  · have hb' : isDigit (folded sensitive b) = false := by rw [isDigit_folded, hb]
    rw [folded_of_isDigit sensitive ha] at hne ⊢
    rw [tokens_cons_of_isDigit sensitive as ha, tokens_cons_of_not_isDigit sensitive bs hb,
      List.compareLex_cons_cons, compare_number_byte _ ha hb', then_of_ne_eq hne]
  · exact absurd (by rw [ha, hb]; rfl) hdigits

/-- **The natural order is the lexicographic order of token lists.** -/
theorem compareBytes_eq_compareLex (sensitive : Bool) (as bs : List UInt8) :
    compareBytes sensitive as bs =
      List.compareLex Token.compare (tokens sensitive as) (tokens sensitive bs) := by
  fun_induction compareBytes sensitive as bs with
  | case1 => simp [tokens, List.compareLex_nil_nil]
  | case2 b bs =>
    obtain ⟨t, ts, h⟩ := exists_tokens_eq_cons sensitive b bs
    rw [h, tokens, List.compareLex_nil_cons]
  | case3 a as =>
    obtain ⟨t, ts, h⟩ := exists_tokens_eq_cons sensitive a as
    rw [h, tokens, List.compareLex_cons_nil]
  | case4 a as b bs hdigits heq ih =>
    obtain ⟨ha, hb⟩ := Bool.and_eq_true_iff.mp hdigits
    rw [compareLex_tokens_runs sensitive as bs ha hb, heq, Ordering.eq_then, ih]
  | case5 a as b bs hdigits hne =>
    obtain ⟨ha, hb⟩ := Bool.and_eq_true_iff.mp hdigits
    rw [compareLex_tokens_runs sensitive as bs ha hb, then_of_ne_eq hne]
  | case6 a as b bs hdigits heq ih =>
    -- Equal bytes are both digits or both not, so here neither starts a run.
    have hfolded := Std.LawfulEqOrd.eq_of_compare heq
    have hab : isDigit a = isDigit b := by
      rw [← isDigit_folded sensitive a, hfolded, isDigit_folded]
    have hb : isDigit b = false := by simpa [hab] using hdigits
    rw [tokens_cons_of_not_isDigit sensitive as (hab.trans hb),
      tokens_cons_of_not_isDigit sensitive bs hb, List.compareLex_cons_cons, compare_byte, heq,
      Ordering.eq_then, ih]
  | case7 a as b bs hdigits hne => exact (compareLex_tokens_bytes sensitive as bs hdigits hne).symm

instance (sensitive : Bool) : Std.TransCmp (compareBytes sensitive) where
  eq_swap {as bs} := by
    rw [compareBytes_eq_compareLex, compareBytes_eq_compareLex]
    exact Std.OrientedCmp.eq_swap
  isLE_trans {as bs cs} hab hbc := by
    rw [compareBytes_eq_compareLex] at hab hbc ⊢
    exact Std.TransCmp.isLE_trans hab hbc

/-- The natural order is a total preorder. -/
instance (sensitive : Bool) : Std.TransCmp (compareChars sensitive) :=
  transCmp_comap (compareBytes sensitive) bytes

/-! ## Bytes of characters -/

/-- An ASCII character is one byte. -/
theorem bytes_cons_of_ascii {c : Char} (h : c.toNat ≤ 127) (s : List Char) :
    bytes (c :: s) = c.val.toUInt8 :: bytes s := by
  have hsize : c.utf8Size = 1 := Char.utf8Size_eq_one_iff.mpr (UInt32.le_iff_toNat_le.mpr h)
  rw [bytes, List.flatMap_cons, String.utf8EncodeChar_eq_singleton hsize]
  rfl

theorem toNat_byte_of_ascii {c : Char} (h : c.toNat ≤ 127) : c.val.toUInt8.toNat = c.toNat := by
  rw [UInt32.toNat_toUInt8]
  exact Nat.mod_eq_of_lt (Nat.lt_of_le_of_lt h (by decide))

theorem bytes_toList (s : String) : bytes s.toList = s.toUTF8.data.toList := by
  rw [String.toUTF8, ← String.utf8Encode_toList, List.utf8Encode, List.data_toByteArray]
  rfl

/-! ## Texts -/

/-- The tokens of a text. -/
def tokensOf (sensitive : Bool) (s : String) : List Token :=
  tokens sensitive s.toUTF8.data.toList

theorem compare_eq_compareTokens (sensitive : Bool) (a b : String) :
    compare sensitive a b =
      List.compareLex Token.compare (tokensOf sensitive a) (tokensOf sensitive b) := by
  rw [tokensOf, tokensOf, ← bytes_toList, ← bytes_toList]
  exact compareBytes_eq_compareLex sensitive _ _

instance (sensitive : Bool) : Std.TransCmp (compare sensitive) :=
  transCmp_comap (compareChars sensitive) String.toList

/-- **The natural order of texts** is the lexicographic order of their tokens, a proper beginning
being smaller. So it is a total preorder, and texts are equal in it exactly if their tokens are. -/
theorem compare_eq_compareLex_tokens (sensitive : Bool) :
    IsTokenOrder Token.compare ∧
      (∀ a b, compare sensitive a b =
        List.compareLex Token.compare (tokensOf sensitive a) (tokensOf sensitive b)) ∧
      Std.TransCmp (compare sensitive) ∧
      ∀ a b, compare sensitive a b = .eq ↔ tokensOf sensitive a = tokensOf sensitive b := by
  refine ⟨isTokenOrder_compare, compare_eq_compareTokens sensitive, inferInstance, fun a b => ?_⟩
  rw [compare_eq_compareTokens]
  exact Std.LawfulEqCmp.compare_eq_iff_eq

example : tokensOf false "a007-x" = [.byte 65, .number 7, .byte 45, .byte 88] := by cbv

end NaturalOrder

end PackQuery
