import Mathlib.Data.List.Forall2
import SavedFilter.Proofs.Sql.Parameters

/-! # Patterns hold the text of the user

A database reads a pattern by rules of its own: a percent sign is any run of characters, an
underscore is any one character, and a backslash takes the character behind it as it is. Under
these rules the pattern that a comparison binds fits a text exactly when the text contains, begins
with or ends with the value, whatever characters the value has, `patterns_literal`. -/
set_option autoImplicit false
namespace SavedFilter

open Sql Fragment

namespace Sql

variable {same : Char → Char → Prop}

/-- A text fits a pattern. Which characters pass for one another is up to the database, which may
ignore letter case. -/
inductive Like (same : Char → Char → Prop) : List Char → List Char → Prop where
  | nil : Like same [] []
  | run {pattern text : List Char} (skipped : List Char) (later : Like same pattern text) :
      Like same ('%' :: pattern) (skipped ++ text)
  | any {pattern text : List Char} (c : Char) (later : Like same pattern text) :
      Like same ('_' :: pattern) (c :: text)
  | escaped {c c' : Char} {pattern text : List Char} (one : same c c')
      (later : Like same pattern text) : Like same ('\\' :: c :: pattern) (c' :: text)
  | plain {c c' : Char} {pattern text : List Char} (itself : c ≠ '%' ∧ c ≠ '_' ∧ c ≠ '\\')
      (one : same c c') (later : Like same pattern text) : Like same (c :: pattern) (c' :: text)

theorem like_nil_iff {text : List Char} : Like same [] text ↔ text = [] := by
  constructor
  · rintro ⟨⟩
    rfl
  · rintro rfl
    exact .nil

theorem like_run_iff {pattern text : List Char} :
    Like same ('%' :: pattern) text ↔
      ∃ skipped rest, skipped ++ rest = text ∧ Like same pattern rest := by
  constructor
  · intro fits
    cases fits with
    | run skipped later => exact ⟨skipped, _, rfl, later⟩
    | plain itself => exact absurd rfl itself.1
  · rintro ⟨skipped, rest, rfl, later⟩
    exact .run skipped later

theorem like_backslash_iff {c : Char} {pattern text : List Char} :
    Like same ('\\' :: c :: pattern) text ↔
      ∃ c' rest, c' :: rest = text ∧ same c c' ∧ Like same pattern rest := by
  constructor
  · intro fits
    cases fits with
    | escaped one later => exact ⟨_, _, rfl, one, later⟩
    | plain itself => exact absurd rfl itself.2.2
  · rintro ⟨c', rest, rfl, one, later⟩
    exact .escaped one later

theorem like_plain_iff {c : Char} {pattern text : List Char}
    (itself : c ≠ '%' ∧ c ≠ '_' ∧ c ≠ '\\') :
    Like same (c :: pattern) text ↔
      ∃ c' rest, c' :: rest = text ∧ same c c' ∧ Like same pattern rest := by
  constructor
  · intro fits
    cases fits with
    | run => exact absurd rfl itself.1
    | any => exact absurd rfl itself.2.1
    | escaped => exact absurd rfl itself.2.2
    | plain _ one later => exact ⟨_, _, rfl, one, later⟩
  · rintro ⟨c', rest, rfl, one, later⟩
    exact .plain itself one later

/-- A character of the value stands for itself, with a backslash or without. -/
theorem like_escapedPattern_cons {c : Char} {cs pattern text : List Char} :
    Like same (escapedPattern (c :: cs) ++ pattern) text ↔
      ∃ c' rest, c' :: rest = text ∧ same c c' ∧ Like same (escapedPattern cs ++ pattern) rest := by
  by_cases special : c = '\\' ∨ c = '%' ∨ c = '_'
  · have written : escapedPattern (c :: cs) = '\\' :: c :: escapedPattern cs := by
      simp only [escapedPattern, List.flatMap_cons, if_pos special, List.cons_append,
        List.nil_append]
    rw [written]
    exact like_backslash_iff
  · have written : escapedPattern (c :: cs) = c :: escapedPattern cs := by
      simp only [escapedPattern, List.flatMap_cons, if_neg special, List.cons_append,
        List.nil_append]
    obtain ⟨noBackslash, others⟩ := not_or.mp special
    obtain ⟨noPercent, noUnderscore⟩ := not_or.mp others
    rw [written]
    exact like_plain_iff ⟨noPercent, noUnderscore, noBackslash⟩

/-- The escaped value uses up a text like the value, and the rest of the pattern goes on behind. -/
theorem like_escapedPattern_append {cs pattern text : List Char} :
    Like same (escapedPattern cs ++ pattern) text ↔
      ∃ found rest, found ++ rest = text ∧ List.Forall₂ same cs found ∧ Like same pattern rest := by
  induction cs generalizing text with
  | nil =>
    constructor
    · intro fits
      exact ⟨[], text, rfl, .nil, fits⟩
    · rintro ⟨found, rest, rfl, ⟨⟩, later⟩
      exact later
  | cons c cs ih =>
    rw [like_escapedPattern_cons]
    constructor
    · rintro ⟨c', behind, rfl, one, fits⟩
      obtain ⟨found, rest, rfl, others, later⟩ := ih.mp fits
      exact ⟨c' :: found, rest, rfl, .cons one others, later⟩
    · rintro ⟨found, rest, rfl, alike, later⟩
      cases alike with
      | cons one others => exact ⟨_, _, rfl, one, ih.mpr ⟨_, rest, rfl, others, later⟩⟩

theorem like_escapedPattern_iff {cs text : List Char} :
    Like same (escapedPattern cs) text ↔ List.Forall₂ same cs text := by
  rw [← List.append_nil (escapedPattern cs), like_escapedPattern_append]
  constructor
  · rintro ⟨found, rest, rfl, alike, noneLeft⟩
    obtain rfl := like_nil_iff.mp noneLeft
    rwa [List.append_nil]
  · intro alike
    exact ⟨text, [], List.append_nil text, alike, .nil⟩

/-- A percent sign at the end takes whatever is left. -/
theorem like_escapedPattern_run_iff {cs text : List Char} :
    Like same (escapedPattern cs ++ ['%']) text ↔
      ∃ found, List.Forall₂ same cs found ∧ found <+: text := by
  rw [like_escapedPattern_append]
  constructor
  · rintro ⟨found, rest, whole, alike, _⟩
    exact ⟨found, alike, rest, whole⟩
  · rintro ⟨found, alike, rest, whole⟩
    have leftOver : Like same ['%'] (rest ++ []) := .run rest .nil
    rw [List.append_nil] at leftOver
    exact ⟨found, rest, whole, alike, leftOver⟩

theorem like_contains_iff {cs text : List Char} :
    Like same ('%' :: escapedPattern cs ++ ['%']) text ↔
      ∃ found, List.Forall₂ same cs found ∧ found <:+: text := by
  rw [List.cons_append, like_run_iff]
  simp only [like_escapedPattern_run_iff]
  constructor
  · rintro ⟨skipped, behind, rfl, found, alike, rest, rfl⟩
    exact ⟨found, alike, skipped, rest, List.append_assoc skipped found rest⟩
  · rintro ⟨found, alike, skipped, rest, rfl⟩
    exact ⟨skipped, found ++ rest, (List.append_assoc skipped found rest).symm, found, alike,
      List.prefix_append found rest⟩

theorem like_endsWith_iff {cs text : List Char} :
    Like same ('%' :: escapedPattern cs) text ↔
      ∃ found, List.Forall₂ same cs found ∧ found <:+ text := by
  rw [like_run_iff]
  simp only [like_escapedPattern_iff]
  constructor
  · rintro ⟨skipped, found, whole, alike⟩
    exact ⟨found, alike, skipped, whole⟩
  · rintro ⟨found, alike, skipped, whole⟩
    exact ⟨skipped, found, whole, alike⟩

end Sql

/-- A text pattern binds one parameter. It fits the texts that have the characters of the given text
within them, in front or at the end, and no others, in every dialect and for a column of any table.
A value of another kind is bound like the text that it is written as. -/
theorem patterns_literal (same : Char → Char → Prop) (d : Dialect) (base : Option String)
    (field s : String) :
    (∃ pattern : String,
      params ((Condition.compare field .contains (.scalar (.string s))).sql d base) =
          [.string pattern] ∧
        ∀ text, Like same pattern.toList text ↔
          ∃ found, List.Forall₂ same s.toList found ∧ found <:+: text) ∧
    (∃ pattern : String,
      params ((Condition.compare field .startsWith (.scalar (.string s))).sql d base) =
          [.string pattern] ∧
        ∀ text, Like same pattern.toList text ↔
          ∃ found, List.Forall₂ same s.toList found ∧ found <+: text) ∧
    (∃ pattern : String,
      params ((Condition.compare field .endsWith (.scalar (.string s))).sql d base) =
          [.string pattern] ∧
        ∀ text, Like same pattern.toList text ↔
          ∃ found, List.Forall₂ same s.toList found ∧ found <:+ text) ∧
    ∀ lookup ∈ [Lookup.contains, .startsWith, .endsWith], ∀ v : Value,
      params ((Condition.compare field lookup (.scalar v)).sql d base) =
        params ((Condition.compare field lookup (.scalar (.string v.text))).sql d base) := by
  simp only [params_condition]
  refine ⟨⟨_, rfl, fun text => ?_⟩, ⟨_, rfl, fun text => ?_⟩, ⟨_, rfl, fun text => ?_⟩, ?_⟩
  · rw [String.toList_ofList]
    exact like_contains_iff
  · rw [String.toList_ofList]
    exact like_escapedPattern_run_iff
  · rw [String.toList_ofList]
    exact like_endsWith_iff
  · intro lookup pattern v
    simp only [List.mem_cons, List.not_mem_nil, or_false] at pattern
    rcases pattern with rfl | rfl | rfl <;> rfl

/-- A percent sign, an underscore and a backslash at the end stand for themselves. -/
theorem patterns_literal_discount :
    params ((Condition.compare "title" .contains (.scalar (.string "5%_off\\"))).sql
        .postgres none) = [.string "%5\\%\\_off\\\\%"] ∧
      Like Eq "%5\\%\\_off\\\\%".toList "a 5%_off\\ tag".toList ∧
      ¬ Like Eq "%5\\%\\_off\\\\%".toList "a 50 off\\ tag".toList ∧
      params ((Condition.compare "title" .endsWith (.scalar (.string "5%_off\\"))).sql
        .mysql none) = [.string "%5\\%\\_off\\\\"] ∧
      Like Eq "%5\\%\\_off\\\\".toList "a 5%_off\\".toList ∧
      ¬ Like Eq "%5\\%\\_off\\\\".toList "a 5%_off\\ tag".toList := by
  have itself {found : List Char} (alike : List.Forall₂ Eq "5%_off\\".toList found) :
      "5%_off\\".toList = found := by
    rwa [List.forall₂_eq_eq_eq] at alike
  have alike : List.Forall₂ Eq "5%_off\\".toList "5%_off\\".toList :=
    List.forall₂_same.mpr fun _ _ => rfl
  obtain ⟨⟨within, withinBound, fitsWithin⟩, -⟩ :=
    patterns_literal Eq .postgres none "title" "5%_off\\"
  obtain ⟨-, -, ⟨atEnd, atEndBound, fitsAtEnd⟩, -⟩ :=
    patterns_literal Eq .mysql none "title" "5%_off\\"
  have withinPattern : within = "%5\\%\\_off\\\\%" := by
    have bound : [Value.string within] = [.string "%5\\%\\_off\\\\%"] :=
      withinBound.symm.trans (by decide +kernel)
    simpa using bound
  have atEndPattern : atEnd = "%5\\%\\_off\\\\" := by
    have bound : [Value.string atEnd] = [.string "%5\\%\\_off\\\\"] :=
      atEndBound.symm.trans (by decide +kernel)
    simpa using bound
  subst withinPattern atEndPattern
  refine ⟨withinBound, (fitsWithin _).mpr ⟨_, alike, "a ".toList, " tag".toList, rfl⟩, ?_,
    atEndBound, (fitsAtEnd _).mpr ⟨_, alike, "a ".toList, rfl⟩, ?_⟩
  · intro fits
    obtain ⟨found, alike, inside⟩ := (fitsWithin _).mp fits
    rw [← itself alike, ← Text.contains_iff_infix] at inside
    exact absurd inside (by decide +kernel)
  · intro fits
    obtain ⟨found, alike, behind⟩ := (fitsAtEnd _).mp fits
    rw [← itself alike] at behind
    exact absurd behind (by decide)

end SavedFilter
