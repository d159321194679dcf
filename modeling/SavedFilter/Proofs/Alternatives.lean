import SavedFilter.Proofs.Text.Parts
import SavedFilter.Term

/-! # Alternative paths and their joined text

The fields of a term are written as one text with bars between them. What a text with bars is split
into is not empty, has no blank at either end and no bar in it, `isAlternative_of_mem`, and any list
of such paths, the empty list too, is found again in its joined text, `alternatives_joined`. No
other list is. -/
set_option autoImplicit false
namespace SavedFilter

namespace Field

structure IsAlternative (path : String) : Prop where
  someChar : path ≠ ""
  firstShown : ∀ c ∈ path.toList.head?, Text.isBlank c = false
  lastShown : ∀ c ∈ path.toList.getLast?, Text.isBlank c = false
  unseparated : '|' ∉ path.toList

variable {path text : String} {paths : List String}

theorem isAlternative_iff_isPart : IsAlternative path ↔ Text.IsPart '|' path.toList := by
  have filled : path ≠ "" ↔ path.toList ≠ [] := by simp
  constructor
  · rintro ⟨someChar, firstShown, lastShown, unseparated⟩
    exact ⟨filled.mp someChar, Text.trim_eq_self_iff.mpr ⟨firstShown, lastShown⟩, unseparated⟩
  · rintro ⟨someChar, trimmed, unseparated⟩
    obtain ⟨firstShown, lastShown⟩ := Text.trim_eq_self_iff.mp trimmed
    exact ⟨filled.mpr someChar, firstShown, lastShown, unseparated⟩

theorem isAlternative_of_mem (member : path ∈ alternatives text) : IsAlternative path := by
  obtain ⟨part, inside, rfl⟩ := List.mem_map.mp member
  rw [isAlternative_iff_isPart, String.toList_ofList]
  exact Text.isPart_of_mem_trimmedParts inside

theorem alternatives_joined (each : ∀ p ∈ paths, IsAlternative p) :
    alternatives (joined paths) = paths := by
  have parts : ∀ p ∈ paths, Text.IsPart '|' p.toList := fun p member =>
    isAlternative_iff_isPart.mp (each p member)
  have padded : List.Forall₂ (fun p t => Text.Padded p.toList t.toList) paths paths :=
    List.forall₂_same.mpr fun p _ => Text.Padded.refl p.toList
  exact Text.map_trimmedParts_joined rfl (by decide) parts padded

theorem alternatives_joined_iff :
    alternatives (joined paths) = paths ↔ ∀ p ∈ paths, IsAlternative p := by
  constructor
  · intro found p member
    rw [← found] at member
    exact isAlternative_of_mem member
  · exact alternatives_joined

end Field

namespace Term

/-- The fields that a text gives to a term, negated or not, are not empty and have no blank at
either end and no bar in them, and the joined text of the term gives the very same fields. Of all
lists exactly those of such fields are found again in their text with bars between them. -/
theorem fields_rejoined (lookup : Lookup) (value : Option String) :
    (∀ text, ∀ t ∈ [atomic text lookup value, negated text lookup value],
      (∀ field ∈ t.fields, Field.IsAlternative field) ∧
        Field.alternatives t.fieldPath = t.fields) ∧
    ∀ paths : List String,
      Field.alternatives ("|".intercalate paths) = paths ↔ ∀ p ∈ paths, Field.IsAlternative p := by
  refine ⟨fun text t member => ?_, fun paths => Field.alternatives_joined_iff⟩
  have split : t.fields = Field.alternatives text := by
    simp only [List.mem_cons, List.not_mem_nil, or_false] at member
    rcases member with rfl | rfl <;> rfl
  have each : ∀ field ∈ t.fields, Field.IsAlternative field := by
    rw [split]
    exact fun field => Field.isAlternative_of_mem
  exact ⟨each, Field.alternatives_joined each⟩

/-- Blank alternatives, and wide and unbreakable spaces at the ends, leave no trace; a list with a
blank alternative, or with a bar in one, is not found again. -/
theorem fields_rejoined_blanks :
    (atomic "\u2003title || \u3000|author__name\u00a0" .contains (some "rust")).fields =
        ["title", "author__name"] ∧
      Field.IsAlternative "author__name" ∧
      "|".intercalate ["title", "author__name"] = "title|author__name" ∧
      Field.alternatives "title|author__name" = ["title", "author__name"] ∧
      Field.alternatives ("|".intercalate []) = [] ∧
      Field.alternatives ("|".intercalate ["title", " "]) ≠ ["title", " "] ∧
      Field.alternatives ("|".intercalate ["title|summary"]) ≠ ["title|summary"] := by
  obtain ⟨kept, found⟩ := fields_rejoined .contains (some "rust")
  have read : (atomic "\u2003title || \u3000|author__name\u00a0" .contains (some "rust")).fields =
      ["title", "author__name"] := by decide +kernel
  have text : "|".intercalate ["title", "author__name"] = "title|author__name" := by decide +kernel
  obtain ⟨each, rejoined⟩ := kept "\u2003title || \u3000|author__name\u00a0" _ List.mem_cons_self
  rw [fieldPath, read, Field.joined, text] at rejoined
  rw [read] at each
  refine ⟨read, each "author__name" (by simp), text, rejoined, (found []).mpr (by simp), ?_, ?_⟩
  · intro same
    have shown := ((found ["title", " "]).mp same " " (by simp)).firstShown ' ' rfl
    exact absurd shown (by decide)
  · intro same
    have single := (found ["title|summary"]).mp same "title|summary" List.mem_cons_self
    exact single.unseparated (by decide)

end Term
end SavedFilter
