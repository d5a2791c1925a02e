import PackQuery.Proofs.Version.StrictGrammar
import PackQuery.Proofs.Version.Parse
import PackQuery.Proofs.Version.ScaledOrder

/-!
# Strict versions read as versions

A strict version may be read as any other version is. The two readers split a text in different
orders: one takes number after number from the left, the other first cuts off the metadata, then
the release, and splits what is left at its dots.

**The parts** (`parse_text`). Both readers find the same parts, since there is neither a dash nor a
plus in the numbers and no plus in the pre-release. Dots and dashes behind the first mark do not
matter. As the numbers end in a digit, no release without a dash is found behind them either.

**The order** (`compareParsed_toVersion`). The natural order of two segments that are numbers is the
order of the numbers, with and without regard to case.

Main result: `compare_of_read`.
-/

namespace PackQuery

namespace StrictVersion

/-! ## The version that is read -/

/-- The numbers of a strict version and its pre-release as segments and release. -/
def toVersion (v : StrictVersion) : Version where
  major := (toString v.major).toList
  minor := (toString v.minor).toList
  patch := (toString v.patch).toList
  release := if v.pre = "" then none else some v.pre.toList

theorem not_mem_core (v : StrictVersion) {c : Char} (hc : c.isDigit = false) (hdot : c ≠ '.') :
    c ∉ v.core.toList := by
  have hdigits : ∀ n, c ∉ Nat.toDigits 10 n := fun n => (isDigits_toDigits n).not_mem hc
  simp [toList_core, hdigits, hdot]

/-- The numbers end in a digit, so no release without a dash is found behind them. -/
theorem isDigit_getLast?_core (v : StrictVersion) :
    v.core.toList.getLast?.any Char.isDigit = true := by
  have hpatch := isDigits_toDigits v.patch
  have hlast := List.getLast?_eq_some_getLast hpatch.ne_nil
  rw [toList_core, List.getLast?_append, List.getLast?_cons, List.getLast?_append,
    List.getLast?_cons, hlast]
  exact hpatch.isDigit _ (List.getLast_mem _)

theorem ofCore_core (v : StrictVersion) (release : Option (List Char)) :
    Version.ofCore v.core.toList release =
      ⟨Nat.toDigits 10 v.major, Nat.toDigits 10 v.minor, Nat.toDigits 10 v.patch, release⟩ := by
  have hdot : ∀ n, '.' ∉ Nat.toDigits 10 n := fun n => (isDigits_toDigits n).not_mem (by decide)
  rw [toList_core]
  exact Version.ofCore_segments (hdot _) (hdot _) (hdot _) Nat.toDigits_ne_nil release

theorem marked_isTail (mark : Char) (part : String) : Text.IsTail mark (marked mark part) := by
  unfold marked
  split
  · exact Or.inl rfl
  · exact Text.isTail_append (by rw [String.toList_singleton]; rfl) part

/-- **The text of a strict version reads as the same version.** -/
theorem parse_text {v : StrictVersion} (hv : v.IsStrict) :
    Version.parse v.text = v.toVersion := by
  have hdash := v.not_mem_core (c := '-') (by decide) (by decide)
  have hplus := v.not_mem_core (c := '+') (by decide) (by decide)
  unfold text toVersion
  by_cases h : v.pre = ""
  · rw [marked, if_pos h, if_pos h, String.append_empty,
      Version.parse_append_metadata hplus (marked_isTail _ _),
      Version.parse_of_isDigit hdash hplus v.isDigit_getLast?_core, ofCore_core]
    simp only [toList_toString]
  · have hplus' : '+' ∉ v.pre.toList := fun hmem => absurd ((hv.pre h).isChar '+' hmem) (by decide)
    have hfront : '+' ∉ (v.core ++ "-" ++ v.pre).toList := by simp [hplus, hplus']
    rw [marked, if_neg h, if_neg h, ← String.append_assoc, show String.singleton '-' = "-" from rfl,
      Version.parse_append_metadata hfront (marked_isTail _ _),
      Version.parse_append_dash hdash hplus hplus', ofCore_core]
    simp only [toList_toString]

/-! ## Comparing strict versions -/

theorem scaled_compare (rank : Int) (m n : Nat) :
    Version.scaled rank (Ord.compare m n) = rank * ((m : Int) - n).sign := by
  rcases Nat.lt_trichotomy m n with h | h | h
  · rw [Nat.compare_eq_lt.mpr h, Int.sign_eq_neg_one_of_neg (by omega)]
    simp [Version.scaled]
  · rw [h, Std.compare_self, Int.sub_self]
    simp [Version.scaled]
  · rw [Nat.compare_eq_gt.mpr h, Int.sign_eq_one_of_pos (by omega)]
    simp [Version.scaled]

/-- The first number that differs decides, and between equal numbers the pre-release. -/
theorem compareParsed_toVersion (sensitive : Bool) (v w : StrictVersion) :
    Version.compareParsed sensitive v.toVersion w.toVersion =
      orElse (3 * ((v.major : Int) - w.major).sign)
        (orElse (2 * ((v.minor : Int) - w.minor).sign)
          (orElse (1 * ((v.patch : Int) - w.patch).sign)
            (Version.compareReleases v.toVersion.release w.toVersion.release))) := by
  simp only [Version.compareParsed_eq, toVersion, toList_toString,
    NaturalOrder.compareChars_toDigits, scaled_compare]

theorem compare_text (sensitive : Bool) {v w : StrictVersion} (hv : v.IsStrict)
    (hw : w.IsStrict) :
    Version.compare sensitive v.text w.text =
      Version.compareParsed sensitive v.toVersion w.toVersion := by
  rw [Version.compare_eq_compareParsed, parse_text hv, parse_text hw]

theorem mul_sign_ne_zero {rank : Int} (hrank : rank ≠ 0) {m n : Nat} (h : m ≠ n) :
    rank * ((m : Int) - n).sign ≠ 0 := by
  have hsign : ((m : Int) - n).sign ≠ 0 := mt Int.sign_eq_zero_iff_zero.mp (by omega)
  exact Int.mul_ne_zero hrank hsign

theorem mul_sign_self (rank : Int) (n : Nat) : rank * ((n : Int) - n).sign = 0 := by
  rw [Int.sub_self, Int.sign_zero, Int.mul_zero]

/-- **Strict versions keep their parts and their order when they are read as versions.** The
numbers become the segments, in the digits that they are written with, and the pre-release becomes
the release. The first number that differs decides with its rank. Between equal numbers, a version
with a pre-release is just below one without. -/
theorem compare_of_read {s t : String} {v w : StrictVersion} (hs : read s = .ok v)
    (ht : read t = .ok w) (sensitive : Bool) :
    Version.parse s =
        { major := (toString v.major).toList
          minor := (toString v.minor).toList
          patch := (toString v.patch).toList
          release := if v.pre = "" then none else some v.pre.toList } ∧
      (v.major ≠ w.major →
        Version.compare sensitive s t = 3 * ((v.major : Int) - w.major).sign) ∧
      (v.major = w.major → v.minor ≠ w.minor →
        Version.compare sensitive s t = 2 * ((v.minor : Int) - w.minor).sign) ∧
      (v.major = w.major → v.minor = w.minor → v.patch ≠ w.patch →
        Version.compare sensitive s t = 1 * ((v.patch : Int) - w.patch).sign) ∧
      (v.major = w.major → v.minor = w.minor → v.patch = w.patch →
        (v.pre ≠ "" → w.pre = "" → Version.compare sensitive s t = -1) ∧
          (v.pre = "" → w.pre ≠ "" → Version.compare sensitive s t = 1) ∧
          (v.pre = "" → w.pre = "" → Version.compare sensitive s t = 0)) := by
  obtain ⟨hv, rfl⟩ := read_eq_ok_iff.mp hs
  obtain ⟨hw, rfl⟩ := read_eq_ok_iff.mp ht
  rw [compare_text sensitive hv hw, compareParsed_toVersion]
  refine ⟨parse_text hv, ?_, ?_, ?_, ?_⟩
  · intro hmajor
    rw [orElse_of_ne (mul_sign_ne_zero (by decide) hmajor)]
  · intro hmajor hminor
    rw [hmajor, mul_sign_self, orElse_zero, orElse_of_ne (mul_sign_ne_zero (by decide) hminor)]
  · intro hmajor hminor hpatch
    rw [hmajor, hminor, mul_sign_self, mul_sign_self, orElse_zero, orElse_zero,
      orElse_of_ne (mul_sign_ne_zero (by decide) hpatch)]
  · intro hmajor hminor hpatch
    rw [hmajor, hminor, hpatch, mul_sign_self, mul_sign_self, mul_sign_self, orElse_zero,
      orElse_zero, orElse_zero, toVersion, toVersion]
    refine ⟨?_, ?_, ?_⟩
    · intro hpre hpre'
      rw [if_neg hpre, if_pos hpre', Version.compareReleases_some_none]
    · intro hpre hpre'
      rw [if_pos hpre, if_neg hpre', Version.compareReleases_none_some]
    · intro hpre hpre'
      rw [if_pos hpre, if_pos hpre', Version.compareReleases_none_none]

/-- Dots and dashes in the pre-release and the metadata, and a minor number that is less as a
text. -/
theorem compare_of_read_dashes :
    read "1.10.0-rc.1-x+b-1" = .ok ⟨1, 10, 0, "rc.1-x", "b-1"⟩ ∧
      read "1.9.0+2-a.b" = .ok ⟨1, 9, 0, "", "2-a.b"⟩ ∧
      (Version.parse "1.10.0-rc.1-x+b-1").release = some "rc.1-x".toList ∧
      Version.compare true "1.10.0-rc.1-x+b-1" "1.9.0+2-a.b" = 2 * ((10 : Int) - 9).sign := by
  have hs : read "1.10.0-rc.1-x+b-1" = .ok ⟨1, 10, 0, "rc.1-x", "b-1"⟩ := by decide +kernel
  have ht : read "1.9.0+2-a.b" = .ok ⟨1, 9, 0, "", "2-a.b"⟩ := by decide +kernel
  obtain ⟨hparse, -, hminor, -⟩ := compare_of_read hs ht true
  refine ⟨hs, ht, ?_, hminor rfl (by decide)⟩
  rw [hparse]
  rfl

end StrictVersion

end PackQuery
