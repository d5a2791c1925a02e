/-!
# Cutting text

**Delimiters.** A name looked up in front of a delimiter ends at the *first* one, an identifier
looked up behind it starts after the *last* one, so `Name::Id` has the parts `Name` and `Id`. Each
cut is defined on lists of characters (`Chars`) and lifted to strings (`Text`).

**Blank characters** are those with the Unicode property `White_Space`. Texts are trimmed by them.
-/

namespace PackQuery

namespace Chars

/-- The characters before the first `d`, all of them without one. -/
def before (d : Char) (s : List Char) : List Char :=
  s.takeWhile (· != d)

/-- The characters after the first `d`, if there is one. -/
def after? (d : Char) (s : List Char) : Option (List Char) :=
  match s.dropWhile (· != d) with
  | [] => none
  | _ :: rest => some rest

/-- The characters after the last `d`, none without one. -/
def afterLast (d : Char) (s : List Char) : List Char :=
  if s.contains d then (s.reverse.takeWhile (· != d)).reverse else []

/-- The characters after the first place where `needle` stands, if there is one. -/
def afterFirst? (needle : List Char) : List Char → Option (List Char)
  | [] => if needle.isEmpty then some [] else none
  | c :: rest =>
    if needle.isPrefixOf (c :: rest) then some ((c :: rest).drop needle.length)
    else afterFirst? needle rest

/-- The characters before and after the first place where `needle` stands, if there is one. -/
def cut? (needle : List Char) : List Char → Option (List Char × List Char)
  | [] => if needle.isEmpty then some ([], []) else none
  | c :: rest =>
    if needle.isPrefixOf (c :: rest) then some ([], (c :: rest).drop needle.length)
    else (cut? needle rest).map fun (before, after) => (c :: before, after)

/-- The pieces between the delimiters, of which there is one more than delimiters. -/
def splitOn (d : Char) : List Char → List (List Char)
  | [] => [[]]
  | c :: rest =>
    if c == d then [] :: splitOn d rest
    else match splitOn d rest with
      | [] => [[c]]
      | piece :: pieces => (c :: piece) :: pieces

/-- The number of bytes of the UTF-8 form. -/
def byteLength (s : List Char) : Nat :=
  s.foldl (fun n c => n + c.utf8Size) 0

/-! ## Cuts of joined characters -/

theorem ne_of_mem {d : Char} {s : List Char} (h : d ∉ s) : ∀ c ∈ s, (c != d) = true :=
  fun _ hc => bne_iff_ne.mpr fun he => h (he ▸ hc)

theorem before_of_not_mem {d : Char} {s : List Char} (h : d ∉ s) : before d s = s := by
  have happend := @List.takeWhile_append_of_pos _ (· != d) s [] (ne_of_mem h)
  simpa [before] using happend

theorem before_append_cons {d : Char} {s : List Char} (h : d ∉ s) (t : List Char) :
    before d (s ++ d :: t) = s := by
  rw [before, List.takeWhile_append_of_pos (ne_of_mem h)]
  simp

theorem after?_of_not_mem {d : Char} {s : List Char} (h : d ∉ s) : after? d s = none := by
  have happend := @List.dropWhile_append_of_pos _ (· != d) s [] (ne_of_mem h)
  rw [List.append_nil] at happend
  rw [after?, happend]
  rfl

theorem after?_append_cons {d : Char} {s : List Char} (h : d ∉ s) (t : List Char) :
    after? d (s ++ d :: t) = some t := by
  rw [after?, List.dropWhile_append_of_pos (ne_of_mem h)]
  simp

theorem afterLast_of_not_mem {d : Char} {s : List Char} (h : d ∉ s) : afterLast d s = [] :=
  if_neg (by simpa using h)

theorem afterLast_append_cons {d : Char} {t : List Char} (h : d ∉ t) (s : List Char) :
    afterLast d (s ++ d :: t) = t := by
  have hrev : d ∉ t.reverse := mt List.mem_reverse.mp h
  rw [afterLast, if_pos (by simp), List.reverse_append, List.reverse_cons, List.append_assoc,
    List.takeWhile_append_of_pos (ne_of_mem hrev)]
  simp

end Chars

namespace Text

/-! ## Blank characters -/

/-- The ranges of `White_Space`, ends included. -/
def blankRanges : List (Nat × Nat) :=
  [(0x09, 0x0D), (0x20, 0x20), (0x85, 0x85), (0xA0, 0xA0), (0x1680, 0x1680), (0x2000, 0x200A),
   (0x2028, 0x2029), (0x202F, 0x202F), (0x205F, 0x205F), (0x3000, 0x3000)]

/-- Whether a character is blank. -/
def isBlank (c : Char) : Bool :=
  blankRanges.any fun r => r.1 ≤ c.toNat && c.toNat ≤ r.2

/-- The characters without the blank ones at either end. -/
def trimChars (s : List Char) : List Char :=
  ((s.dropWhile isBlank).reverse.dropWhile isBlank).reverse

/-- The text without the blank characters at either end. -/
def trim (s : String) : String := String.ofList (trimChars s.toList)

/-- The text without the blank characters at its end. -/
def trimEnd (s : String) : String :=
  String.ofList (s.toList.reverse.dropWhile isBlank).reverse

/-! ## Cuts of texts -/

/-- The text before the first `d`, the whole text without one. -/
def before (d : Char) (s : String) : String :=
  String.ofList (Chars.before d s.toList)

/-- The text after the last `d`, the empty text without one. -/
def afterLast (d : Char) (s : String) : String :=
  String.ofList (Chars.afterLast d s.toList)

/-- The text after the first place where `needle` stands, the whole text without one. -/
def afterFirst (needle s : String) : String :=
  match Chars.afterFirst? needle.toList s.toList with
  | some rest => String.ofList rest
  | none => s

/-- The number of UTF-8 bytes in front of the first ASCII digit, if there is a digit. -/
def firstDigitOffset? (s : String) : Option Nat :=
  if s.toList.any Char.isDigit then
    some (Chars.byteLength (s.toList.takeWhile (!·.isDigit)))
  else none

/-- The texts with a separator between each two. -/
def join (separator : String) : List String → String
  | [] => ""
  | s :: rest => rest.foldl (fun acc t => acc ++ separator ++ t) s

/-! ## Cuts of joined texts -/

section
variable {d : Char} {separator : String}

theorem toList_append_separator (h : separator.toList = [d]) (s t : String) :
    (s ++ separator ++ t).toList = s.toList ++ d :: t.toList := by
  simp [h]

theorem before_append_separator (h : separator.toList = [d]) {s : String} (hs : d ∉ s.toList)
    (t : String) : before d (s ++ separator ++ t) = s := by
  rw [before, toList_append_separator h, Chars.before_append_cons hs, String.ofList_toList]

theorem afterLast_append_separator (h : separator.toList = [d]) {t : String}
    (ht : d ∉ t.toList) (s : String) : afterLast d (s ++ separator ++ t) = t := by
  rw [afterLast, toList_append_separator h, Chars.afterLast_append_cons ht, String.ofList_toList]

end

end Text

end PackQuery
