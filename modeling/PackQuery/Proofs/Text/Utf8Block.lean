import Mathlib.Tactic.SplitIfs
import PackQuery.Text.Utf8Block

/-!
# Forms of four bytes

A code point from 0x10000 on has a UTF-8 form of four bytes (`form`), and as a range on its own it
has that form for its only block (`ofRange_form`). The code point can be told from its form
(`codeOf_form`), and forms ascend as code points do (`lt_of_precedes`).
-/

namespace PackQuery.Text.Utf8Block

/-- The block of a single byte. -/
abbrev only (byte : Nat) : Nat × Nat := (byte, byte)

/-- The further bytes for the last bits of a code point. -/
def further : Nat → Nat → Block
  | 0, _ => []
  | k + 1, n => only (0x80 + n / span k % 64) :: further k n

/-- The form of a code point with four bytes. -/
def form (n : Nat) : Block := only (0xF0 + n / span 3) :: further 3 n

theorem span_dvd (k : Nat) : span k ∣ span (k + 1) := ⟨64, Nat.mul_comm 64 _⟩

theorem further_mod {k d : Nat} (h : span k ∣ d) (n : Nat) : further k (n % d) = further k n := by
  induction k with
  | zero => rfl
  | succ k ih =>
    have hbits : n % d / span k % 64 = n / span k % 64 := by
      have hdvd : 64 * span k ∣ d := h
      rw [← Nat.mod_mul_left_div_self, ← Nat.mod_mul_left_div_self, Nat.mod_mod_of_dvd n hdvd]
    rw [further, further, hbits, ih (Nat.dvd_trans (span_dvd k) h)]

theorem between_self (mark k n : Nat) :
    between mark k n n = [only (mark + n / span k) :: further k n] := by
  induction k generalizing mark n with
  | zero => simp [between, span, further]
  | succ k ih =>
    have hbits : n % span (k + 1) / span k = n / span k % 64 := Nat.mod_mul_left_div_self ..
    rw [between]
    dsimp only
    rw [if_pos (beq_self_eq_true _), ih, hbits, further_mod (span_dvd k)]
    rfl

theorem ofRange_form {n : Nat} (h : 0x10000 ≤ n) (h' : n ≤ 0x10FFFF) :
    ofRange (n, n) = [form n] := by
  have hshort : ∀ l ∈ lengths.take 4, ¬max l.first n ≤ min l.last n := by
    intro l hl
    simp only [lengths, List.take_succ_cons, List.take_zero, List.mem_cons, List.not_mem_nil,
      or_false] at hl
    rcases hl with rfl | rfl | rfl | rfl <;> simp <;> omega
  have hfour : max 0x10000 n = n ∧ min 0x10FFFF n = n := ⟨Nat.max_eq_right h, Nat.min_eq_right h'⟩
  have hnone : ((lengths.take 4).flatMap fun l =>
      if max l.first n ≤ min l.last n then
        between l.mark l.further (max l.first n) (min l.last n) else []) = [] :=
    List.flatMap_eq_nil_iff.mpr fun l hl => if_neg (hshort l hl)
  have hsplit : lengths = lengths.take 4 ++ [⟨0x10000, 0x10FFFF, 0xF0, 3⟩] := rfl
  rw [ofRange, hsplit, List.flatMap_append]
  dsimp only
  rw [hnone, List.nil_append, List.flatMap_singleton, hfour.1, hfour.2, if_pos (Nat.le_refl n),
    between_self]
  rfl

/-! ## From forms to code points -/

/-- The code point of a form of four bytes. -/
def codeOf : Block → Nat
  | [a, b, c, d] =>
    (((a.1 - 0xF0) * 64 + (b.1 - 0x80)) * 64 + (c.1 - 0x80)) * 64 + (d.1 - 0x80)
  | _ => 0

theorem codeOf_only (a b c d : Nat) :
    codeOf [only a, only b, only c, only d] =
      (((a - 0xF0) * 64 + (b - 0x80)) * 64 + (c - 0x80)) * 64 + (d - 0x80) := rfl

theorem form_eq (n : Nat) :
    form n = [only (0xF0 + n / 262144), only (0x80 + n / 4096 % 64), only (0x80 + n / 64 % 64),
      only (0x80 + n % 64)] := by
  simp [form, further, span]

theorem codeOf_form (n : Nat) : codeOf (form n) = n := by
  rw [form_eq, codeOf_only]
  omega

/-- The bits of a code point, six for each byte behind the first one. -/
theorem form_bits {a b c d : Nat} (hb : b < 64) (hc : c < 64) (hd : d < 64) :
    form (((a * 64 + b) * 64 + c) * 64 + d) =
      [only (0xF0 + a), only (0x80 + b), only (0x80 + c), only (0x80 + d)] := by
  have hdigits : (((a * 64 + b) * 64 + c) * 64 + d) / 262144 = a ∧
      (((a * 64 + b) * 64 + c) * 64 + d) / 4096 % 64 = b ∧
      (((a * 64 + b) * 64 + c) * 64 + d) / 64 % 64 = c ∧
      (((a * 64 + b) * 64 + c) * 64 + d) % 64 = d := by omega
  obtain ⟨ha, hb, hc, hd⟩ := hdigits
  rw [form_eq, ha, hb, hc, hd]

/-- Whether two blocks begin alike, up to a byte that is less in the first one. -/
def Precedes (q q' : Block) : Prop :=
  ∃ front b c rest rest', q = front ++ only b :: rest ∧ q' = front ++ only c :: rest' ∧ b < c

theorem Precedes.cons (byte : Nat) {q q' : Block} (h : Precedes q q') :
    Precedes (only byte :: q) (only byte :: q') := by
  obtain ⟨front, b, c, rest, rest', rfl, rfl, hlt⟩ := h
  exact ⟨only byte :: front, b, c, rest, rest', rfl, rfl, hlt⟩

/-- **Forms ascend as code points do.** -/
theorem lt_of_precedes {m n : Nat} (h : Precedes (form m) (form n)) : m < n := by
  obtain ⟨front, b, c, rest, rest', hm, hn, hlt⟩ := h
  rw [form_eq] at hm hn
  -- The bytes in front of the first one that differs are the same numbers in both forms.
  match front with
  | [] | [(_, _)] | [(_, _), (_, _)] | [(_, _), (_, _), (_, _)] =>
    simp only [List.nil_append, List.cons_append, List.cons.injEq, Prod.mk.injEq] at hm hn
    omega
  | _ :: _ :: _ :: _ :: front => simp at hm

end PackQuery.Text.Utf8Block
