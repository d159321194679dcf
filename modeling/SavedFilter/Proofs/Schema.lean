import SavedFilter.Proofs.FirstSeen
import SavedFilter.Proofs.Text.Parts
import SavedFilter.Schema

/-! # What a schema offers

The paths that a schema lists are the alternatives of its entries, each once, in the order in which
they are first seen there. It accepts what it lists; besides, it accepts the empty field when an
alternative of an entry is blank, `Schema.allows_iff_listed`, and then it accepts more than it
lists, `Schema.allows_unlisted_doubled`. -/
set_option autoImplicit false
namespace SavedFilter

namespace FieldEntry

/-- The texts between the bars of an entry; a divider has none. -/
def parts : FieldEntry → List (List Char)
  | path text | labeled text _ => if text = "-" then [] else text.toList.splitOn '|'

def alternatives (e : FieldEntry) : List String :=
  ((e.parts.map Text.trim).filter (· ≠ [])).map String.ofList

theorem parts_eq (e : FieldEntry) :
    e.parts = if e.isDivider then [] else e.text.toList.splitOn '|' := by
  cases e <;> simp [parts, isDivider, text, dividerPath]

theorem alternatives_eq (e : FieldEntry) :
    e.alternatives = if e.isDivider then [] else Field.alternatives e.text := by
  rw [alternatives, parts_eq]
  split
  · rfl
  · have kept (p : List Char) : decide (p ≠ []) = !p.isEmpty := by cases p <;> rfl
    simp only [kept, Field.alternatives, Text.trimmedParts]

theorem mem_alternatives {e : FieldEntry} {field : String} : field ∈ e.alternatives ↔
    (∃ p ∈ e.parts, Text.trim p = field.toList) ∧ field ≠ "" := by
  have named : field ∈ e.alternatives ↔
      field.toList ∈ (e.parts.map Text.trim).filter (· ≠ []) := by
    rw [alternatives, List.mem_map]
    constructor
    · rintro ⟨part, member, rfl⟩
      rwa [String.toList_ofList]
    · intro member
      exact ⟨field.toList, member, String.ofList_toList⟩
  rw [named, List.mem_filter, List.mem_map]
  simp

end FieldEntry

namespace Schema

/-- Every alternative of every entry, as often as it is written. -/
def offered (s : Schema) : List String := s.fields.flatMap FieldEntry.alternatives

def OffersBlank (s : Schema) : Prop := ∃ e ∈ s.fields, ∃ p ∈ e.parts, Text.trim p = []

theorem offered_eq (s : Schema) :
    s.offered = s.realEntries.flatMap fun e => Field.alternatives e.text := by
  rw [offered, realEntries]
  induction s.fields with
  | nil => rfl
  | cons e entries ih =>
    rw [List.flatMap_cons, ih, FieldEntry.alternatives_eq, List.filter_cons]
    cases e.isDivider <;> rfl

theorem firstSeen_fieldPaths (s : Schema) : FirstSeen s.fieldPaths s.offered := by
  have each (entries : List FieldEntry) {paths items : List String}
      (seen : FirstSeen paths items) :
      FirstSeen (entries.foldl (fun paths e => addPaths paths (Field.alternatives e.text)) paths)
        (items ++ entries.flatMap fun e => Field.alternatives e.text) := by
    induction entries generalizing paths items with
    | nil => simpa using seen
    | cons e entries ih =>
      rw [List.foldl_cons, List.flatMap_cons, ← List.append_assoc]
      exact ih (seen.see_all (Field.alternatives e.text))
  rw [offered_eq]
  exact each s.realEntries .nil

theorem mem_offered {s : Schema} {field : String} : field ∈ s.offered ↔
    (∃ e ∈ s.fields, ∃ p ∈ e.parts, Text.trim p = field.toList) ∧ field ≠ "" := by
  simp only [offered, List.mem_flatMap, FieldEntry.mem_alternatives]
  constructor
  · rintro ⟨e, member, written, someChar⟩
    exact ⟨⟨e, member, written⟩, someChar⟩
  · rintro ⟨⟨e, member, written⟩, someChar⟩
    exact ⟨e, member, written, someChar⟩

theorem allows_iff (s : Schema) (field : String) : s.allows field ↔
    ∃ e ∈ s.fields, ∃ p ∈ e.parts, Text.trim p = field.toList := by
  have inEntry (e : FieldEntry) : (∃ p ∈ e.parts, Text.trim p = field.toList) ↔
      e.isDivider = false ∧ ∃ p ∈ e.text.toList.splitOn '|', Text.trim p = field.toList := by
    rw [FieldEntry.parts_eq]
    cases e.isDivider <;> simp
  simp [allows, realEntries, inEntry]

/-- The fields that a schema accepts are those that it lists, and the empty one if an alternative
is blank; so they are the listed ones only if none is. The list has every alternative once, in the
order of their first places. -/
theorem allows_iff_listed (s : Schema) :
    (∀ field, s.allows field ↔ field ∈ s.fieldPaths ∨ field = "" ∧ s.OffersBlank) ∧
      ((∀ field, s.allows field ↔ field ∈ s.fieldPaths) ↔ ¬ s.OffersBlank) ∧
      s.fieldPaths.Nodup ∧ FirstSeen s.fieldPaths s.offered := by
  have seen := s.firstSeen_fieldPaths
  have emptyUnlisted : "" ∉ s.fieldPaths := by
    rw [seen.mem_iff, mem_offered]
    simp
  have accepted (field : String) :
      s.allows field ↔ field ∈ s.fieldPaths ∨ field = "" ∧ s.OffersBlank := by
    rw [seen.mem_iff, mem_offered, allows_iff]
    by_cases empty : field = ""
    · subst empty
      simp [OffersBlank]
    · simp [empty]
  refine ⟨accepted, ⟨fun allListed blank => ?_, fun noBlank field => ?_⟩, seen.nodup, seen⟩
  · have listed := (allListed "").mp ((accepted "").mpr (.inr ⟨rfl, blank⟩))
    exact emptyUnlisted listed
  · rw [accepted]
    simp [noBlank]

def doubledBar : Schema where
  app := "shop"
  name := "order"
  table := "shop_order"
  fields := [.path "status", .path "customer__name||customer__email"]

/-- The empty field between the bars is accepted, and not listed. -/
theorem allows_unlisted_doubled : doubledBar.allows "" = true ∧ "" ∉ doubledBar.fieldPaths := by
  decide +kernel

end Schema
end SavedFilter
