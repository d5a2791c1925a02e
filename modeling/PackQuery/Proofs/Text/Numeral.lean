import Mathlib.Tactic.IntervalCases
import Mathlib.Tactic.Ring
import PackQuery.Proofs.Numeral

/-!
# Numerals and their numbers

Reading a numeral takes its digits one by one, checks the number against a bound in the end, and
may take the bits of the number for those of a signed one. What should be read can be said without
reading.

**Digits** (`Denotes`). A digit counts its value times a power of the radix. Zeros in front do not
count, nor does the case of letters, and each number has digits (`denotes_toDigits`). They are read
as their number and nothing else is read (`natural?_dropPlus_eq_some_iff`), one plus sign apart.

**Bounds** (`unsigned64?_eq_some_iff`, `signed32?_eq_some_iff`). The number of the digits is not cut
off anywhere before it is compared with the bound, so a numeral is read as itself or not at all.

**Signed and unsigned numbers** (`numerals_exact`). Without a minus sign the signed reader reads
what the unsigned one reads and holds it against the smaller bound. Behind a mark all 32 bits count.
-/

namespace PackQuery.Numeral

variable {radix : Nat} {c : Char} {s t : List Char} {v n : Nat}

/-! ## Digits -/

/-- Whether a character is the digit for a value, letters in either case. -/
def IsDigitOf (radix : Nat) (c : Char) (v : Nat) : Prop :=
  v < radix ∧ (c = Nat.digitChar v ∨ c = (Nat.digitChar v).toUpper)

/-- The number that digits denote, the first one counting most. -/
inductive Denotes (radix : Nat) : List Char → Nat → Prop where
  | nil : Denotes radix [] 0
  | cons {c : Char} {v : Nat} {s : List Char} {n : Nat} (hc : IsDigitOf radix c v)
      (hs : Denotes radix s n) : Denotes radix (c :: s) (v * radix ^ s.length + n)

theorem toNat_digitChar (h : v < 16) :
    (Nat.digitChar v).toNat = (if v < 10 then 48 else 87) + v ∧
      (Nat.digitChar v).toUpper.toNat = (if v < 10 then 48 else 55) + v := by
  interval_cases v <;> exact ⟨rfl, rfl⟩

theorem digit?_eq_some_iff (h : radix ≤ 16) : digit? radix c = some v ↔ IsDigitOf radix c v := by
  constructor
  · intro hv
    unfold digit? at hv
    obtain ⟨w, hw⟩ : ∃ w, w = if '0' ≤ c ∧ c ≤ '9' then c.toNat - '0'.toNat
        else if 'a' ≤ c ∧ c ≤ 'z' then c.toNat - 'a'.toNat + 10
        else if 'A' ≤ c ∧ c ≤ 'Z' then c.toNat - 'A'.toNat + 10 else radix := ⟨_, rfl⟩
    rw [← hw] at hv
    obtain ⟨hradix, rfl⟩ := below_eq_some_iff.mp hv
    obtain ⟨hlower, hupper⟩ := toNat_digitChar (Nat.lt_of_lt_of_le hradix h)
    refine ⟨hradix, ?_⟩
    rw [← Char.toNat_inj, ← Char.toNat_inj, hlower, hupper]
    split_ifs at hw with hdecimal hsmall hcapital
    · have hc : 48 ≤ c.toNat ∧ c.toNat ≤ 57 := hdecimal
      change w = c.toNat - 48 at hw
      exact Or.inl (by rw [if_pos (by omega)]; omega)
    · have hc : 97 ≤ c.toNat ∧ c.toNat ≤ 122 := hsmall
      change w = c.toNat - 97 + 10 at hw
      exact Or.inl (by rw [if_neg (by omega)]; omega)
    · have hc : 65 ≤ c.toNat ∧ c.toNat ≤ 90 := hcapital
      change w = c.toNat - 65 + 10 at hw
      exact Or.inr (by rw [if_neg (by omega)]; omega)
    · omega
  · rintro ⟨hv, hc⟩
    have hlt : v < 16 := Nat.lt_of_lt_of_le hv h
    rcases hc with rfl | rfl <;> interval_cases v <;> exact if_pos hv

theorem IsDigitOf.toUpper (h : radix ≤ 16) (hc : IsDigitOf radix c v) :
    IsDigitOf radix c.toUpper v := by
  obtain ⟨hv, hc⟩ := hc
  have hlt : v < 16 := Nat.lt_of_lt_of_le hv h
  refine ⟨hv, Or.inr ?_⟩
  rcases hc with rfl | rfl
  · rfl
  · interval_cases v <;> rfl

theorem IsDigitOf.not_isBlank (h : radix ≤ 16) (hc : IsDigitOf radix c v) :
    Text.isBlank c = false := by
  obtain ⟨hv, hc⟩ := hc
  have hlt : v < 16 := Nat.lt_of_lt_of_le hv h
  rcases hc with rfl | rfl <;> interval_cases v <;> rfl

theorem foldlM_digit?_eq_some_iff (h : radix ≤ 16) (m : Nat) :
    s.foldlM (fun n c => (digit? radix c).map (n * radix + ·)) m = some v ↔
      ∃ n, Denotes radix s n ∧ m * radix ^ s.length + n = v := by
  induction s generalizing m with
  | nil =>
    rw [List.foldlM_nil, List.length_nil, Nat.pow_zero, Nat.mul_one]
    constructor
    · intro hv
      exact ⟨0, .nil, Option.some.inj hv⟩
    · rintro ⟨n, hn, rfl⟩
      cases hn
      rfl
  | cons c s ih =>
    have hpow (a b : Nat) : (m * radix + a) * radix ^ s.length + b =
        m * radix ^ (c :: s).length + (a * radix ^ s.length + b) := by
      rw [List.length_cons]
      ring
    rw [List.foldlM_cons]
    constructor
    · intro hv
      obtain ⟨m', hm, hrest⟩ := Option.bind_eq_some_iff.mp hv
      obtain ⟨a, ha, rfl⟩ := Option.map_eq_some_iff.mp hm
      obtain ⟨b, hb, rfl⟩ := (ih _).mp hrest
      exact ⟨_, .cons ((digit?_eq_some_iff h).mp ha) hb, (hpow a b).symm⟩
    · rintro ⟨n, hn, rfl⟩
      cases hn with
      | @cons _ a _ b hc hs =>
        rw [(digit?_eq_some_iff h).mpr hc]
        exact (ih _).mpr ⟨b, hs, hpow a b⟩

/-- **Digits are read as their number.** -/
theorem natural?_eq_some_iff (h : radix ≤ 16) :
    natural? radix s = some n ↔ s ≠ [] ∧ Denotes radix s n := by
  cases s with
  | nil => exact iff_of_false nofun fun hn => hn.1 rfl
  | cons c s =>
    have hfold := foldlM_digit?_eq_some_iff (s := c :: s) (v := n) h 0
    simp only [Nat.zero_mul, Nat.zero_add, exists_eq_right] at hfold
    exact hfold.trans (and_iff_right (List.cons_ne_nil c s)).symm

theorem Denotes.exists_isDigitOf (h : Denotes radix s n) : ∀ c ∈ s, ∃ v, IsDigitOf radix c v := by
  induction h with
  | nil => exact nofun
  | cons hc _ ih => exact List.forall_mem_cons.mpr ⟨⟨_, hc⟩, ih⟩

/-! ## Digits of every number -/

theorem Denotes.append {m : Nat} (hs : Denotes radix s m) (ht : Denotes radix t n) :
    Denotes radix (s ++ t) (m * radix ^ t.length + n) := by
  induction hs with
  | nil => simpa using ht
  | @cons c a s b hc _ ih =>
    have hpow : (a * radix ^ s.length + b) * radix ^ t.length + n =
        a * radix ^ (s ++ t).length + (b * radix ^ t.length + n) := by
      rw [List.length_append]
      ring
    rw [hpow]
    exact .cons hc ih

/-- Zeros in front do not count. -/
theorem Denotes.zeros_append (h : Denotes radix s n) (hradix : 0 < radix) (k : Nat) :
    Denotes radix (List.replicate k '0' ++ s) n := by
  induction k with
  | zero => exact h
  | succ k ih =>
    have hzero : IsDigitOf radix '0' 0 := ⟨hradix, Or.inl rfl⟩
    rw [List.replicate_succ, List.cons_append]
    simpa using Denotes.cons hzero ih

/-- The case of letters does not count. -/
theorem Denotes.map_toUpper (h : Denotes radix s n) (hradix : radix ≤ 16) :
    Denotes radix (s.map Char.toUpper) n := by
  induction h with
  | nil => exact .nil
  | @cons c a s b hc _ ih =>
    have hlength : (s.map Char.toUpper).length = s.length := List.length_map _
    rw [List.map_cons, ← hlength]
    exact .cons (hc.toUpper hradix) ih

theorem denotes_digitChar (h : v < radix) : Denotes radix [Nat.digitChar v] v := by
  have hc : IsDigitOf radix (Nat.digitChar v) v := ⟨h, Or.inl rfl⟩
  simpa using Denotes.cons hc .nil

/-- **Every number has digits.** -/
theorem denotes_toDigits (h : 2 ≤ radix) (n : Nat) : Denotes radix (Nat.toDigits radix n) n := by
  induction n using Nat.strongRecOn with
  | ind n ih =>
    by_cases hlt : n < radix
    · rw [Nat.toDigits_of_lt_base hlt]
      exact denotes_digitChar hlt
    · have hle : radix ≤ n := Nat.le_of_not_lt hlt
      have hdiv : n / radix < n := Nat.div_lt_self (by omega) h
      have hmod : n % radix < radix := Nat.mod_lt n (by omega)
      have happend := (ih _ hdiv).append (denotes_digitChar hmod)
      rw [Nat.toDigits_of_base_le h hle]
      rwa [List.length_singleton, Nat.pow_one, Nat.mul_comm, Nat.div_add_mod] at happend

/-! ## Numerals -/

/-- Whether a text is an unsigned numeral for a number: digits, with one plus sign or none. -/
def IsNumeral (radix : Nat) (t : List Char) (n : Nat) : Prop :=
  ∃ sign s, (sign = [] ∨ sign = ['+']) ∧ t = sign ++ s ∧ s ≠ [] ∧ Denotes radix s n

/-- Whether a text is a decimal numeral with a minus sign, for the negative of a number. -/
def IsNegative (t : List Char) (n : Nat) : Prop :=
  ∃ s, t = '-' :: s ∧ s ≠ [] ∧ Denotes 10 s n

/-- The marks of hexadecimal numerals. -/
def IsMark (mark : List Char) : Prop := mark = ['0', 'x'] ∨ mark = ['0', 'X']

/-- Whether a text starts with a mark. -/
def HasMark (t : List Char) : Prop := ∃ mark, IsMark mark ∧ mark <+: t

/-- Whether a text is a hexadecimal numeral for a number. A sign stands behind the mark. -/
def IsHexadecimal (t : List Char) (n : Nat) : Prop :=
  ∃ mark s, IsMark mark ∧ t = mark ++ s ∧ IsNumeral 16 s n

theorem exists_dropPlus (t : List Char) :
    ∃ sign, (sign = [] ∨ sign = ['+']) ∧ t = sign ++ dropPlus t := by
  unfold dropPlus
  split
  · exact ⟨['+'], Or.inr rfl, rfl⟩
  · exact ⟨[], Or.inl rfl, rfl⟩

/-- A plus sign is no digit. -/
theorem dropPlus_of_denotes (h : radix ≤ 16) (hs : Denotes radix s n) : dropPlus s = s := by
  unfold dropPlus
  split
  · obtain ⟨v, hv⟩ := hs.exists_isDigitOf '+' List.mem_cons_self
    have hnone : digit? radix '+' = none := if_neg (Nat.lt_irrefl radix)
    rw [(digit?_eq_some_iff h).mpr hv] at hnone
    cases hnone
  · rfl

theorem natural?_dropPlus_eq_some_iff (h : radix ≤ 16) :
    natural? radix (dropPlus t) = some n ↔ IsNumeral radix t n := by
  constructor
  · intro hn
    obtain ⟨hne, hs⟩ := (natural?_eq_some_iff h).mp hn
    obtain ⟨sign, hsign, ht⟩ := exists_dropPlus t
    exact ⟨sign, dropPlus t, hsign, ht, hne, hs⟩
  · rintro ⟨sign, s, hsign, rfl, hne, hs⟩
    have hdrop : dropPlus (sign ++ s) = s := by
      rcases hsign with rfl | rfl
      · exact dropPlus_of_denotes h hs
      · rfl
    rw [hdrop]
    exact (natural?_eq_some_iff h).mpr ⟨hne, hs⟩

theorem IsNumeral.eq_plus_or_isDigitOf (h : IsNumeral radix t n) :
    ∀ c ∈ t, c = '+' ∨ ∃ v, IsDigitOf radix c v := by
  obtain ⟨sign, s, hsign, rfl, -, hs⟩ := h
  refine List.forall_mem_append.mpr ⟨?_, fun c hc => Or.inr (hs.exists_isDigitOf c hc)⟩
  rcases hsign with rfl | rfl
  · exact nofun
  · exact List.forall_mem_singleton.mpr (Or.inl rfl)

theorem IsNumeral.not_mem (h : IsNumeral radix t n) (hradix : radix ≤ 16)
    (hc : digit? radix c = none) (hplus : c ≠ '+') : c ∉ t := by
  intro hmem
  obtain ⟨v, hv⟩ := (h.eq_plus_or_isDigitOf c hmem).resolve_left hplus
  rw [(digit?_eq_some_iff hradix).mpr hv] at hc
  cases hc

/-- A decimal numeral has no mark, as `x` is no digit. -/
theorem IsNumeral.not_hasMark (h : IsNumeral 10 t n) : ¬HasMark t := by
  rintro ⟨mark, rfl | rfl, s, rfl⟩
  · exact h.not_mem (by decide) (c := 'x') rfl (by decide) (by simp)
  · exact h.not_mem (by decide) (c := 'X') rfl (by decide) (by simp)

theorem IsNumeral.head?_ne_minus (h : IsNumeral 10 t n) : t.head? ≠ some '-' := by
  intro hhead
  exact h.not_mem (by decide) rfl (by decide) (List.mem_of_mem_head? hhead)

theorem hexadecimal?_eq_some_iff :
    hexadecimal? t = some s ↔ ∃ mark, IsMark mark ∧ t = mark ++ s := by
  constructor
  · intro h
    unfold hexadecimal? at h
    split at h
    · exact ⟨_, Or.inl rfl, by rw [← Option.some.inj h]; rfl⟩
    · exact ⟨_, Or.inr rfl, by rw [← Option.some.inj h]; rfl⟩
    · cases h
  · rintro ⟨mark, rfl | rfl, rfl⟩ <;> rfl

theorem isSome_hexadecimal?_iff : (hexadecimal? t).isSome = true ↔ HasMark t := by
  rw [Option.isSome_iff_exists]
  constructor
  · rintro ⟨s, hs⟩
    obtain ⟨mark, hmark, rfl⟩ := hexadecimal?_eq_some_iff.mp hs
    exact ⟨mark, hmark, s, rfl⟩
  · rintro ⟨mark, hmark, s, rfl⟩
    exact ⟨s, hexadecimal?_eq_some_iff.mpr ⟨mark, hmark, rfl⟩⟩

theorem hexadecimal?_eq_none (h : ¬HasMark t) : hexadecimal? t = none := by
  rwa [← isSome_hexadecimal?_iff, Bool.not_eq_true, Option.isSome_eq_false_iff,
    Option.isNone_iff_eq_none] at h

theorem IsHexadecimal.hasMark (h : IsHexadecimal t n) : HasMark t := by
  obtain ⟨mark, s, hmark, rfl, -⟩ := h
  exact ⟨mark, hmark, s, rfl⟩

/-! ## Trimming -/

theorem IsNumeral.isBlank_eq_false (h : IsNumeral radix t n) (hradix : radix ≤ 16) :
    ∀ c ∈ t, Text.isBlank c = false := by
  intro c hc
  rcases h.eq_plus_or_isDigitOf c hc with rfl | ⟨v, hv⟩
  · rfl
  · exact hv.not_isBlank hradix

theorem IsNegative.isBlank_eq_false (h : IsNegative t n) : ∀ c ∈ t, Text.isBlank c = false := by
  obtain ⟨s, rfl, -, hs⟩ := h
  refine List.forall_mem_cons.mpr ⟨rfl, fun c hc => ?_⟩
  obtain ⟨v, hv⟩ := hs.exists_isDigitOf c hc
  exact hv.not_isBlank (by decide)

theorem IsHexadecimal.isBlank_eq_false (h : IsHexadecimal t n) :
    ∀ c ∈ t, Text.isBlank c = false := by
  obtain ⟨mark, s, hmark, rfl, hs⟩ := h
  refine List.forall_mem_append.mpr ⟨?_, hs.isBlank_eq_false (by decide)⟩
  rcases hmark with rfl | rfl <;>
    exact List.forall_mem_cons.mpr ⟨rfl, List.forall_mem_singleton.mpr rfl⟩

/-! ## Unsigned numbers -/

/-- A bound lets a number through as it is. -/
theorem bind_below_eq_some_iff {o : Option Nat} {bound : Nat} :
    o.bind (below bound) = some n ↔ o = some n ∧ n < bound := by
  rw [Option.bind_eq_some_iff]
  constructor
  · rintro ⟨m, hm, hbelow⟩
    obtain ⟨hlt, rfl⟩ := below_eq_some_iff.mp hbelow
    exact ⟨hm, hlt⟩
  · rintro ⟨hn, hlt⟩
    exact ⟨n, hn, below_eq_some_iff.mpr ⟨hlt, rfl⟩⟩

theorem unsignedOf?_of_isNumeral (h : IsNumeral 10 t n) : unsignedOf? t = below limit64 n := by
  rw [unsignedOf?, hexadecimal?_eq_none h.not_hasMark]
  show (natural? 10 (dropPlus t)).bind (below limit64) = _
  rw [(natural?_dropPlus_eq_some_iff (by decide)).mpr h, Option.bind_some]

theorem unsignedOf?_of_isHexadecimal (h : IsHexadecimal t n) :
    unsignedOf? t = below limit64 n := by
  obtain ⟨mark, s, hmark, ht, hs⟩ := h
  rw [unsignedOf?, hexadecimal?_eq_some_iff.mpr ⟨mark, hmark, ht⟩]
  show (natural? 16 (dropPlus s)).bind (below limit64) = _
  rw [(natural?_dropPlus_eq_some_iff (by decide)).mpr hs, Option.bind_some]

theorem unsignedOf?_eq_some_iff :
    unsignedOf? t = some n ↔ n < 2 ^ 64 ∧ (IsNumeral 10 t n ∨ IsHexadecimal t n) := by
  constructor
  · intro h
    unfold unsignedOf? at h
    split at h
    · rename_i s hs
      obtain ⟨mark, hmark, ht⟩ := hexadecimal?_eq_some_iff.mp hs
      obtain ⟨hn, hlt⟩ := bind_below_eq_some_iff.mp h
      have hnumeral : IsNumeral 16 s n := (natural?_dropPlus_eq_some_iff (by decide)).mp hn
      exact ⟨hlt, Or.inr ⟨mark, s, hmark, ht, hnumeral⟩⟩
    · obtain ⟨hn, hlt⟩ := bind_below_eq_some_iff.mp h
      exact ⟨hlt, Or.inl ((natural?_dropPlus_eq_some_iff (by decide)).mp hn)⟩
  · rintro ⟨hlt, h | h⟩
    · rw [unsignedOf?_of_isNumeral h]
      exact below_eq_some_iff.mpr ⟨hlt, rfl⟩
    · rw [unsignedOf?_of_isHexadecimal h]
      exact below_eq_some_iff.mpr ⟨hlt, rfl⟩

/-- **The unsigned reader reads the numerals whose number is in range**, and nothing else. -/
theorem unsigned64?_eq_some_iff {s : String} : unsigned64? s = some n ↔
    n < 2 ^ 64 ∧ (IsNumeral 10 (Text.trimChars s.toList) n ∨
      IsHexadecimal (Text.trimChars s.toList) n) :=
  unsignedOf?_eq_some_iff

/-! ## Signed numbers -/

/-- The bits of a number are read as those of a signed one. -/
theorem wordToInt_eq_toInt (h : n < 2 ^ 32) : wordToInt n = (BitVec.ofNat 32 n).toInt := by
  have h31 : limit31 = 2 ^ 31 := rfl
  have h32 : limit32 = 2 ^ 32 := rfl
  rw [BitVec.toInt_ofNat', wordToInt, h31, h32, Int.bmod]
  split <;> split <;> omega

theorem signedOf?_of_hasMark (h : HasMark t) :
    signedOf? t = ((unsignedOf? t).bind (below limit32)).map wordToInt :=
  if_pos (isSome_hexadecimal?_iff.mpr h)

theorem signedOf?_of_not_hasMark (h : ¬HasMark t) (hhead : t.head? ≠ some '-') :
    signedOf? t =
      ((natural? 10 (dropPlus t)).bind (below limit31)).map fun m : Nat => (m : Int) := by
  unfold signedOf?
  rw [if_neg (isSome_hexadecimal?_iff.not.mpr h)]
  split
  · exact absurd rfl hhead
  · cases (natural? 10 (dropPlus t)).bind (below limit31) <;> rfl

theorem signedOf?_minus : signedOf? ('-' :: s) =
    ((natural? 10 s).bind (below (limit31 + 1))).map fun m : Nat => -(m : Int) := by
  show Option.map _ _ = _
  cases (natural? 10 s).bind (below (limit31 + 1)) <;> rfl

theorem unsignedOf?_of_isNegative (h : IsNegative t n) : unsignedOf? t = none := by
  obtain ⟨s, rfl, -, -⟩ := h
  have hnone (m : Nat) : ¬IsNumeral 10 ('-' :: s) m := fun hm => hm.head?_ne_minus rfl
  have hmark (m : Nat) : ¬IsHexadecimal ('-' :: s) m := by
    rintro ⟨mark, s', rfl | rfl, ht, -⟩ <;> cases ht
  refine Option.eq_none_iff_forall_ne_some.mpr fun m hm => ?_
  exact (unsignedOf?_eq_some_iff.mp hm).2.elim (hnone m) (hmark m)

theorem signedOf?_of_isNumeral (h : IsNumeral 10 t n) :
    signedOf? t = if n < 2 ^ 31 then some (n : Int) else none := by
  rw [signedOf?_of_not_hasMark h.not_hasMark h.head?_ne_minus,
    (natural?_dropPlus_eq_some_iff (by decide)).mpr h, Option.bind_some, below]
  exact apply_ite _ _ _ _

theorem signedOf?_of_isNegative (h : IsNegative t n) :
    signedOf? t = if n ≤ 2 ^ 31 then some (-(n : Int)) else none := by
  obtain ⟨s, rfl, hne, hs⟩ := h
  rw [signedOf?_minus, (natural?_eq_some_iff (by decide)).mpr ⟨hne, hs⟩, Option.bind_some, below]
  simp only [Nat.lt_succ_iff]
  exact apply_ite _ _ _ _

theorem signedOf?_of_isHexadecimal (h : IsHexadecimal t n) :
    signedOf? t = if n < 2 ^ 32 then some (BitVec.ofNat 32 n).toInt else none := by
  rw [signedOf?_of_hasMark h.hasMark, unsignedOf?_of_isHexadecimal h]
  split_ifs with hlt
  · have h64 : below limit64 n = some n := if_pos (Nat.lt_trans hlt (by decide))
    have h32 : below limit32 n = some n := if_pos hlt
    rw [h64, Option.bind_some, h32, Option.map_some, wordToInt_eq_toInt hlt]
  · refine Option.map_eq_none_iff.mpr (Option.eq_none_iff_forall_ne_some.mpr fun m hm => ?_)
    obtain ⟨hbelow, hm⟩ := bind_below_eq_some_iff.mp hm
    obtain ⟨-, rfl⟩ := below_eq_some_iff.mp hbelow
    exact hlt hm

theorem signedOf?_eq_some_iff {i : Int} : signedOf? t = some i ↔
    (∃ n : Nat, IsNumeral 10 t n ∧ n < 2 ^ 31 ∧ i = n) ∨
    (∃ n : Nat, IsNegative t n ∧ n ≤ 2 ^ 31 ∧ i = -n) ∨
    ∃ n : Nat, IsHexadecimal t n ∧ n < 2 ^ 32 ∧ i = (BitVec.ofNat 32 n).toInt := by
  constructor
  · intro h
    by_cases hmark : HasMark t
    · rw [signedOf?_of_hasMark hmark] at h
      obtain ⟨n, hbelow, rfl⟩ := Option.map_eq_some_iff.mp h
      obtain ⟨hn, hlt⟩ := bind_below_eq_some_iff.mp hbelow
      have hnumeral := (unsignedOf?_eq_some_iff.mp hn).2.resolve_left
        fun hdecimal => hdecimal.not_hasMark hmark
      exact Or.inr (Or.inr ⟨n, hnumeral, hlt, wordToInt_eq_toInt hlt⟩)
    by_cases hhead : t.head? = some '-'
    · obtain ⟨s, rfl⟩ := List.head?_eq_some_iff.mp hhead
      rw [signedOf?_minus] at h
      obtain ⟨n, hbelow, rfl⟩ := Option.map_eq_some_iff.mp h
      obtain ⟨hn, hlt⟩ := bind_below_eq_some_iff.mp hbelow
      obtain ⟨hne, hs⟩ := (natural?_eq_some_iff (by decide)).mp hn
      exact Or.inr (Or.inl ⟨n, ⟨s, rfl, hne, hs⟩, Nat.le_of_lt_succ hlt, rfl⟩)
    · rw [signedOf?_of_not_hasMark hmark hhead] at h
      obtain ⟨n, hbelow, rfl⟩ := Option.map_eq_some_iff.mp h
      obtain ⟨hn, hlt⟩ := bind_below_eq_some_iff.mp hbelow
      exact Or.inl ⟨n, (natural?_dropPlus_eq_some_iff (by decide)).mp hn, hlt, rfl⟩
  · rintro (⟨n, h, hlt, rfl⟩ | ⟨n, h, hle, rfl⟩ | ⟨n, h, hlt, rfl⟩)
    · rw [signedOf?_of_isNumeral h, if_pos hlt]
    · rw [signedOf?_of_isNegative h, if_pos hle]
    · rw [signedOf?_of_isHexadecimal h, if_pos hlt]

/-- **The signed reader reads the numerals whose number is in range**, with either sign, and the
bits behind a mark. -/
theorem signed32?_eq_some_iff {s : String} {i : Int} : signed32? s = some i ↔
    (∃ n : Nat, IsNumeral 10 (Text.trimChars s.toList) n ∧ n < 2 ^ 31 ∧ i = n) ∨
    (∃ n : Nat, IsNegative (Text.trimChars s.toList) n ∧ n ≤ 2 ^ 31 ∧ i = -n) ∨
    ∃ n : Nat, IsHexadecimal (Text.trimChars s.toList) n ∧ n < 2 ^ 32 ∧
      i = (BitVec.ofNat 32 n).toInt :=
  signedOf?_eq_some_iff

/-! ## Signed and unsigned numbers -/

/-- Behind a mark, the bits of a number below 2³² are those of the signed number. -/
theorem signedOf?_eq_some_iff_of_hasMark {i : Int} (h : HasMark t) :
    signedOf? t = some i ↔
      ∃ v, unsignedOf? t = some v ∧ v < 2 ^ 32 ∧ i = (BitVec.ofNat 32 v).toInt := by
  rw [signedOf?_of_hasMark h, Option.map_eq_some_iff]
  constructor
  · rintro ⟨v, hbelow, rfl⟩
    obtain ⟨hv, hlt⟩ := bind_below_eq_some_iff.mp hbelow
    exact ⟨v, hv, hlt, wordToInt_eq_toInt hlt⟩
  · rintro ⟨v, hv, hlt, rfl⟩
    exact ⟨v, bind_below_eq_some_iff.mpr ⟨hv, hlt⟩, wordToInt_eq_toInt hlt⟩

/-- Without a mark and a minus sign, both readers read the same numbers below 2³¹. -/
theorem signed32?_eq_some_iff_of_not_hasMark {s : String} {i : Int}
    (h : ¬HasMark (Text.trimChars s.toList))
    (hhead : (Text.trimChars s.toList).head? ≠ some '-') :
    signed32? s = some i ↔ ∃ v : Nat, unsigned64? s = some v ∧ v < 2 ^ 31 ∧ i = v := by
  rw [signed32?_eq_some_iff]
  constructor
  · rintro (⟨n, hn, hlt, rfl⟩ | ⟨n, ⟨t, ht, -⟩, -⟩ | ⟨n, hn, -⟩)
    · exact ⟨n, unsigned64?_eq_some_iff.mpr ⟨Nat.lt_trans hlt (by decide), Or.inl hn⟩, hlt, rfl⟩
    · exact absurd (congrArg List.head? ht) hhead
    · exact absurd hn.hasMark h
  · rintro ⟨v, hv, hlt, rfl⟩
    have hn : IsNumeral 10 (Text.trimChars s.toList) v :=
      (unsigned64?_eq_some_iff.mp hv).2.resolve_right fun hn => h hn.hasMark
    exact Or.inl ⟨v, hn, hlt, rfl⟩

/-! ## Written numerals -/

/-- The digits of a number behind zeros, letters in lower case. -/
def written (radix zeros n : Nat) : List Char :=
  List.replicate zeros '0' ++ Nat.toDigits radix n

theorem denotes_written (h : 2 ≤ radix) (zeros n : Nat) :
    Denotes radix (written radix zeros n) n :=
  (denotes_toDigits h n).zeros_append (Nat.lt_of_lt_of_le Nat.two_pos h) zeros

theorem written_ne_nil (radix zeros n : Nat) : written radix zeros n ≠ [] :=
  List.append_ne_nil_of_right_ne_nil _ Nat.toDigits_ne_nil

theorem isNumeral_of_denotes (hne : s ≠ []) (h : Denotes radix s n) : IsNumeral radix s n :=
  ⟨[], s, Or.inl rfl, rfl, hne, h⟩

/-- Whether a text is another one with blank characters around it. -/
def Surrounds (s : String) (t : List Char) : Prop :=
  ∃ w w', (∀ c ∈ w, Text.isBlank c = true) ∧ (∀ c ∈ w', Text.isBlank c = true) ∧
    s = String.ofList (w ++ t ++ w')

theorem Surrounds.trimChars_eq {s : String} (h : Surrounds s t)
    (ht : ∀ c ∈ t, Text.isBlank c = false) : Text.trimChars s.toList = t := by
  obtain ⟨w, w', hw, hw', rfl⟩ := h
  exact Text.trimChars_eq_iff.mpr
    ⟨Text.isTrimmed_of_forall ht, w, w', hw, hw', String.toList_ofList⟩

/-- **Numerals are read exactly.** With a mark, the signed reader reads the numbers below 2³² that
the unsigned one reads, by their bits; with neither mark nor minus sign, those below 2³¹. A numeral
with blank characters around it is read as its number if this is in range and is not read
otherwise, and every number has numerals, in either case of letters and with any zeros in front. -/
theorem numerals_exact :
    (∀ (s : String) (i : Int), HasMark (Text.trimChars s.toList) →
      (signed32? s = some i ↔
        ∃ v, unsigned64? s = some v ∧ v < 2 ^ 32 ∧ i = (BitVec.ofNat 32 v).toInt)) ∧
    (∀ (s : String) (i : Int), ¬HasMark (Text.trimChars s.toList) →
      (Text.trimChars s.toList).head? ≠ some '-' →
      (signed32? s = some i ↔ ∃ v : Nat, unsigned64? s = some v ∧ v < 2 ^ 31 ∧ i = v)) ∧
    (∀ (s : String) (t : List Char) (n : Nat), Surrounds s t →
      (IsNumeral 10 t n →
        unsigned64? s = (if n < 2 ^ 64 then some n else none) ∧
        signed32? s = if n < 2 ^ 31 then some (n : Int) else none) ∧
      (IsNegative t n →
        unsigned64? s = none ∧
        signed32? s = if n ≤ 2 ^ 31 then some (-(n : Int)) else none) ∧
      (IsHexadecimal t n →
        unsigned64? s = (if n < 2 ^ 64 then some n else none) ∧
        signed32? s = if n < 2 ^ 32 then some (BitVec.ofNat 32 n).toInt else none)) ∧
    ∀ zeros n : Nat,
      IsNumeral 10 (written 10 zeros n) n ∧ IsNegative ('-' :: written 10 zeros n) n ∧
      ∀ mark, IsMark mark →
        IsHexadecimal (mark ++ written 16 zeros n) n ∧
        IsHexadecimal (mark ++ (written 16 zeros n).map Char.toUpper) n := by
  refine ⟨fun s i hmark => signedOf?_eq_some_iff_of_hasMark hmark,
    fun s i hmark hhead => signed32?_eq_some_iff_of_not_hasMark hmark hhead,
    fun s t n hs => ⟨fun hn => ?_, fun hn => ?_, fun hn => ?_⟩, fun zeros n => ?_⟩
  · rw [unsigned64?, signed32?, hs.trimChars_eq (hn.isBlank_eq_false (by decide))]
    exact ⟨unsignedOf?_of_isNumeral hn, signedOf?_of_isNumeral hn⟩
  · rw [unsigned64?, signed32?, hs.trimChars_eq hn.isBlank_eq_false]
    exact ⟨unsignedOf?_of_isNegative hn, signedOf?_of_isNegative hn⟩
  · rw [unsigned64?, signed32?, hs.trimChars_eq hn.isBlank_eq_false]
    exact ⟨unsignedOf?_of_isHexadecimal hn, signedOf?_of_isHexadecimal hn⟩
  · have hne := written_ne_nil 10 zeros n
    have hdecimal : Denotes 10 (written 10 zeros n) n := denotes_written (by decide) zeros n
    have hlower : Denotes 16 (written 16 zeros n) n := denotes_written (by decide) zeros n
    have hupper : Denotes 16 ((written 16 zeros n).map Char.toUpper) n :=
      hlower.map_toUpper (by decide)
    have hne16 := written_ne_nil 16 zeros n
    refine ⟨isNumeral_of_denotes hne hdecimal, ⟨_, rfl, hne, hdecimal⟩, fun mark hmark => ?_⟩
    exact ⟨⟨mark, _, hmark, rfl, isNumeral_of_denotes hne16 hlower⟩,
      ⟨mark, _, hmark, rfl, isNumeral_of_denotes (by simpa using hne16) hupper⟩⟩

/-- At the limits of signed numbers: all bits behind a mark, the greatest number behind a sign, the
least one with a zero in front and blank characters around it, and the first with too many bits. -/
theorem numerals_exact_limits :
    signed32? " 0xFFFFFFFF" = some (-1) ∧ signed32? "+2147483647" = some 2147483647 ∧
    signed32? "\t-02147483648 " = some (-2147483648) ∧
    unsigned64? "0X100000000" = some 4294967296 ∧ signed32? "0X100000000" = none := by
  obtain ⟨marked, plain, around, forms⟩ := numerals_exact
  have hbits := marked " 0xFFFFFFFF" (-1) ⟨_, Or.inl rfl, by decide +kernel⟩
  have hgreatest := plain "+2147483647" 2147483647
    (isSome_hexadecimal?_iff.not.mp (by decide +kernel)) (by decide +kernel)
  have hleast := (around "\t-02147483648 " _ 2147483648
    ⟨['\t'], [' '], List.all_eq_true.mp rfl, List.all_eq_true.mp rfl, by decide +kernel⟩).2.1
    (forms 1 2147483648).2.1
  have hwide := (around "0X100000000" _ 4294967296
    ⟨[], [], nofun, nofun, by decide +kernel⟩).2.2 ((forms 0 4294967296).2.2 _ (Or.inr rfl)).1
  exact ⟨hbits.mpr ⟨0xFFFFFFFF, by decide +kernel, by decide, by decide⟩,
    hgreatest.mpr ⟨2147483647, by decide +kernel, by decide, rfl⟩, hleast.2, hwide.1, hwide.2⟩

end PackQuery.Numeral
