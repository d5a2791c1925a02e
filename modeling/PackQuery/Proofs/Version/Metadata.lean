import Mathlib.Data.List.Forall2
import Mathlib.Data.Option.Basic
import PackQuery.Proofs.Version.Range
import PackQuery.Proofs.Version.Selector

/-!
# Build metadata does not influence selection

Two selections run side by side, over candidates of which each pair differs in build metadata only.

**One comparison.** Reading drops build metadata, so both candidates read as the same version and
compare alike with anything (`AgreeUpToMetadata.compare_eq`). A range, however, admits its own text
unread, metadata included. Among candidates without a colon this makes no difference: a range
without a colon admits its own text anyway, and one with a colon is no candidate
(`AgreeUpToMetadata.locate_eq`).

**A whole run.** At each pair both selections take their candidate or both pass it over. So what
they hold differs in metadata only, and so do the baselines that a selector raises.

Main result: `select_append_metadata`.
-/

namespace PackQuery.Version

/-- Two texts without a colon that differ in build metadata only. -/
structure AgreeUpToMetadata (a b : String) : Prop where
  dropMetadata_eq : dropMetadata a = dropMetadata b
  left : ':' ∉ a.toList
  right : ':' ∉ b.toList

/-! ## One comparison -/

/-- Metadata that is put behind a text is dropped again, and so is what the text had before. -/
theorem dropMetadata_append (s metadata : String) :
    dropMetadata (s ++ "+" ++ metadata) = dropMetadata s := by
  rw [dropMetadata, dropMetadata, Text.before, Text.before,
    Text.toList_append_separator rfl, Chars.before, Chars.takeWhile_append_cons (by decide)]
  rfl

theorem agreeUpToMetadata_append {s metadata : String} (hs : ':' ∉ s.toList)
    (hmetadata : ':' ∉ metadata.toList) : AgreeUpToMetadata (s ++ "+" ++ metadata) s where
  dropMetadata_eq := dropMetadata_append s metadata
  left := by simp [hs, hmetadata]
  right := hs

theorem compare_congr {sensitive : Bool} {a a' b b' : String} (ha : parse a = parse a')
    (hb : parse b = parse b') : compare sensitive a b = compare sensitive a' b' := by
  rw [compare_eq_compareParsed, compare_eq_compareParsed, ha, hb]

theorem Range.locateBetween_congr {v w : String} (h : parse v = parse w) (compatible : Bool)
    (low high : String) :
    locateBetween compatible v low high = locateBetween compatible w low high := by
  have hcompare : ∀ bound, compare true v bound = compare true w bound :=
    fun bound => compare_congr h rfl
  simp only [locateBetween, above, hcompare]

namespace AgreeUpToMetadata

variable {a b : String}

/-- Reading drops build metadata. -/
theorem parse_eq (h : AgreeUpToMetadata a b) : parse a = parse b := by
  have htext : withoutMetadata a.toList = withoutMetadata b.toList :=
    String.ofList_injective h.dropMetadata_eq
  rw [parse, parse, htext]

theorem compare_eq (h : AgreeUpToMetadata a b) (sensitive : Bool) {bound bound' : String}
    (hbound : parse bound = parse bound') :
    compare sensitive a bound = compare sensitive b bound' :=
  compare_congr h.parse_eq hbound

/-- A range does not tell them apart, although it knows its own text. -/
theorem locate_eq (h : AgreeUpToMetadata a b) (compatible : Bool) (range : String) :
    Range.locate compatible a range = Range.locate compatible b range := by
  have hbetween := Range.locateBetween_congr h.parse_eq compatible (Range.lower range)
    (Range.upper range)
  by_cases hcolon : ':' ∈ range.toList
  · have hne : ∀ c : String, ':' ∉ c.toList → c ≠ range := by
      rintro c hc rfl
      exact hc hcolon
    rw [Range.locate_of_ne compatible (hne a h.left), Range.locate_of_ne compatible (hne b h.right),
      hbetween]
  · rw [Range.locate_of_not_mem_colon compatible a hcolon,
      Range.locate_of_not_mem_colon compatible b hcolon, hbetween]

end AgreeUpToMetadata

theorem map_dropMetadata_eq {a? b? : Option String} (h : Option.Rel AgreeUpToMetadata a? b?) :
    a?.map dropMetadata = b?.map dropMetadata := by
  cases h with
  | none => rfl
  | some hab => exact congrArg some hab.dropMetadata_eq

/-! ## A whole run -/

namespace Selection

open AgreeUpToMetadata

variable {candidates candidates' : List String}

theorem forall₂_admits (h : List.Forall₂ AgreeUpToMetadata candidates candidates')
    (compatible : Bool) (range : String) :
    List.Forall₂ AgreeUpToMetadata (candidates.filter (Range.admits compatible range))
      (candidates'.filter (Range.admits compatible range)) := by
  refine List.rel_filter ?_ h
  intro a b hab
  show Range.admits compatible range a = true ↔ Range.admits compatible range b = true
  rw [Range.admits, Range.admits, hab.locate_eq]

theorem agree_firstHighest {best best' : String} (hbest : AgreeUpToMetadata best best')
    (h : List.Forall₂ AgreeUpToMetadata candidates candidates') :
    AgreeUpToMetadata (firstHighest best candidates) (firstHighest best' candidates') := by
  induction h generalizing best best' with
  | nil => exact hbest
  | cons hc _ ih =>
    rw [firstHighest, firstHighest, hc.compare_eq true hbest.parse_eq]
    apply ih
    split
    · exact hc
    · exact hbest

theorem agree_highestInRange (h : List.Forall₂ AgreeUpToMetadata candidates candidates')
    (compatible : Bool) (range : String) :
    Option.Rel AgreeUpToMetadata (highestInRange compatible range candidates)
      (highestInRange compatible range candidates') := by
  have hinside := forall₂_admits h compatible range
  unfold highestInRange
  generalize candidates.filter (Range.admits compatible range) = inside at hinside ⊢
  generalize candidates'.filter (Range.admits compatible range) = inside' at hinside ⊢
  cases hinside with
  | nil => exact .none
  | cons hc hrest => exact .some (agree_firstHighest hc hrest)

theorem agree_find? (h : List.Forall₂ AgreeUpToMetadata candidates candidates')
    (baseline : String) :
    Option.Rel AgreeUpToMetadata (candidates.find? fun c => compare false c baseline == 0)
      (candidates'.find? fun c => compare false c baseline == 0) := by
  induction h with
  | nil => exact .none
  | cons hc _ ih =>
    rw [List.find?_cons, List.find?_cons, hc.compare_eq false rfl]
    split
    · exact .some hc
    · exact ih

theorem agree_highestFrom {baseline baseline' : String}
    (hbaseline : parse baseline = parse baseline') {best best' : Option String}
    (hbest : Option.Rel AgreeUpToMetadata best best')
    (h : List.Forall₂ AgreeUpToMetadata candidates candidates') :
    Option.Rel AgreeUpToMetadata (highestFrom baseline best candidates)
      (highestFrom baseline' best' candidates') := by
  induction h generalizing baseline baseline' best best' with
  | nil => exact hbest
  | cons hc _ ih =>
    rw [highestFrom, highestFrom, hc.compare_eq false hbaseline]
    split
    · exact ih hc.parse_eq (.some hc)
    · exact ih hbaseline hbest

/-- **Selections from candidates that differ in metadata only** select such candidates. -/
theorem agree_select (h : List.Forall₂ AgreeUpToMetadata candidates candidates')
    (compatible : Bool) (filter : String) :
    Option.Rel AgreeUpToMetadata (select compatible filter candidates)
      (select compatible filter candidates') := by
  unfold select
  split
  · split
    · exact agree_find? h (baseline filter)
    · exact agree_highestFrom rfl .none h
  · exact agree_highestInRange h compatible filter

/-- **Build metadata does not influence selection.** From the same candidates with and without
metadata, either nothing is selected, or what is selected is the same but for metadata. -/
theorem select_append_metadata (compatible : Bool) (filter : String)
    {candidates : List (String × String)}
    (h : ∀ c ∈ candidates, ':' ∉ c.1.toList ∧ ':' ∉ c.2.toList) :
    (select compatible filter (candidates.map fun c => c.1 ++ "+" ++ c.2)).map dropMetadata =
      (select compatible filter (candidates.map fun c => c.1)).map dropMetadata := by
  have hpairs : List.Forall₂ AgreeUpToMetadata (candidates.map fun c => c.1 ++ "+" ++ c.2)
      (candidates.map fun c => c.1) := by
    rw [List.forall₂_map_left_iff, List.forall₂_map_right_iff, List.forall₂_same]
    intro c hc
    exact agreeUpToMetadata_append (h c hc).1 (h c hc).2
  exact map_dropMetadata_eq (agree_select hpairs compatible filter)

/-- The text of the range is a candidate with its metadata, and equal versions take part under other
metadata. -/
theorem select_append_metadata_spellings :
    (select true "2.1+a" ["2.01+b", "2.1+a", "1.0+x+y"]).map dropMetadata =
        (select true "2.1+a" ["2.01", "2.1", "1.0+x"]).map dropMetadata ∧
      select true "2.1+a" ["2.01+b", "2.1+a", "1.0+x+y"] = some "2.01+b" ∧
      select true "2.1+a" ["2.01", "2.1", "1.0+x"] = some "2.01" := by
  have h := @select_append_metadata true "2.1+a" [("2.01", "b"), ("2.1", "a"), ("1.0+x", "y")]
    (by decide)
  exact ⟨h, by decide +kernel, by decide +kernel⟩

end Selection

end PackQuery.Version
