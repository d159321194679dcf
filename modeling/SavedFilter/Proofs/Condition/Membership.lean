import SavedFilter.Proofs.Condition.Reach
import SavedFilter.Proofs.Text.Parts

/-! # Lists of values

The items of a list are the trimmed parts of its text between commas. A record satisfies a list if
it is equal to an item of it, over all the values that the path reaches, and any list of items is
read back from its text, whatever blanks stand around them: `membership_answers`. Equality is that
of texts here, so the field must not be one that holds dates. -/
set_option autoImplicit false
namespace SavedFilter

namespace Operand

/-- A text that can be an item of a list: not empty, with no blanks around it and no comma in it. -/
def IsItem (v : String) : Prop := Text.IsPart ',' v.toList

variable {field raw v : String}

theorem isItem_of_mem_items (member : v ∈ items raw) : IsItem v := by
  obtain ⟨part, inside, rfl⟩ := List.mem_map.mp member
  rw [IsItem, String.toList_ofList]
  exact Text.isPart_of_mem_trimmedParts inside

theorem IsItem.filled (item : IsItem v) : Text.isBlankText v = false := by
  have filled := Text.isBlankText_of_trimmed item.trimmed item.someChar
  rwa [String.ofList_toList] at filled

theorem filled_of_items (someItem : items raw ≠ []) : Text.isBlankText raw = false := by
  rw [Text.isBlankText, List.isEmpty_eq_false_iff]
  intro blank
  apply someItem
  rw [items, Text.trimmedParts_blank (by decide) blank]
  rfl

/-- Items with commas between them, and any blanks around each, are read back. -/
theorem items_joined {vs texts : List String} (each : ∀ v ∈ vs, IsItem v)
    (padded : List.Forall₂ (fun v t => Text.Padded v.toList t.toList) vs texts) :
    items (",".intercalate texts) = vs :=
  Text.map_trimmedParts_joined rfl (by decide) each padded

theorem parse_oneOf (someItem : items raw ≠ []) :
    parse field .oneOf (some raw) = .ok (.list ((items raw).map .string)) := by
  rw [parse, required_bind (filled_of_items someItem), ofItems]
  split
  · rename_i none
    exact absurd none someItem
  · rfl

theorem parse_equals_plain (plain : Field.namesDate field = false)
    (filled : Text.isBlankText v = false) :
    parse field .equals (some v) = .ok (.scalar (.string v)) := by
  rw [parse, required_bind filled, if_neg (by simp [plain])]
  rfl

theorem holdsOf_list (lookup : Lookup) (vs : List Value) (values : List Json) :
    (list vs).holdsOf lookup values = true ↔
      ∃ v ∈ vs, (scalar v).holdsOf .equals values = true := by
  have equality (v : Value) : (scalar v).holdsOf .equals values = values.any (·.equals v) := rfl
  have membership : (list vs).holdsOf lookup values =
      values.any fun json => vs.any json.equals := by
    cases lookup <;> rfl
  simp only [membership, equality, List.any_eq_true]
  constructor
  · rintro ⟨json, reached, v, member, equal⟩
    exact ⟨v, member, json, reached, equal⟩
  · rintro ⟨v, member, json, reached, equal⟩
    exact ⟨json, reached, v, member, equal⟩

end Operand

namespace Json

open Operand

/-- On a field that holds no dates a record satisfies a list of values exactly when it satisfies
equality with one of the items; and texts that can be items are the list that is read from them,
with commas between them and any blanks around each. -/
theorem membership_answers (field : String) :
    (Field.namesDate field = false → ∀ raw, items raw ≠ [] → ∀ record : Json,
      (∃ b, record.answer field .oneOf raw = .ok b) ∧
        (∀ v ∈ items raw, ∃ b, record.answer field .equals v = .ok b) ∧
        (record.answer field .oneOf raw = .ok true ↔
          ∃ v ∈ items raw, record.answer field .equals v = .ok true)) ∧
    ∀ vs texts : List String, vs ≠ [] → (∀ v ∈ vs, IsItem v) →
      List.Forall₂ (fun v t => Text.Padded v.toList t.toList) vs texts →
      parse field .oneOf (some (",".intercalate texts)) = .ok (.list (vs.map .string)) := by
  constructor
  · intro plain raw someItem record
    have listed : record.answer field .oneOf raw = _ := answer_of_parse (parse_oneOf someItem)
    have equal (v : String) (member : v ∈ items raw) : record.answer field .equals v = _ :=
      answer_of_parse (parse_equals_plain plain (isItem_of_mem_items member).filled)
    refine ⟨⟨_, listed⟩, fun v member => ⟨_, equal v member⟩, ?_⟩
    rw [listed, Except.ok.injEq, holdsOf_list]
    constructor
    · rintro ⟨_, member, satisfied⟩
      obtain ⟨v, inside, rfl⟩ := List.mem_map.mp member
      exact ⟨v, inside, by rw [equal v inside, satisfied]⟩
    · rintro ⟨v, inside, satisfied⟩
      rw [equal v inside] at satisfied
      exact ⟨.string v, List.mem_map_of_mem inside, Except.ok.inj satisfied⟩
  · intro vs texts someItem each padded
    have read := items_joined each padded
    rw [parse_oneOf (by rwa [read]), read]

theorem membership_answers_lines :
    Field.namesDate "lines__sku" = false ∧ items " C-3 ,, B-2" = ["C-3", "B-2"] ∧
      Condition.orderLines.answer "lines__sku" .equals "C-3" = .ok false ∧
      Condition.orderLines.answer "lines__sku" .oneOf " C-3 ,, B-2" = .ok true ∧
      (∀ v ∈ ["B-2", "C-3"], IsItem v) ∧
      List.Forall₂ (fun v t => Text.Padded v.toList t.toList) ["B-2", "C-3"] [" B-2", "C-3\t"] ∧
      parse "lines__sku" .oneOf (some " B-2,C-3\t") =
        .ok (.list [.string "B-2", .string "C-3"]) := by
  have plain : Field.namesDate "lines__sku" = false := by decide +kernel
  have read : items " C-3 ,, B-2" = ["C-3", "B-2"] := by decide +kernel
  have each : ∀ v ∈ ["B-2", "C-3"], IsItem v := by
    simp only [List.forall_mem_cons, List.not_mem_nil, false_implies, implies_true, and_true]
    exact ⟨⟨by decide, by decide, by decide⟩, ⟨by decide, by decide, by decide⟩⟩
  have padded : List.Forall₂ (fun v t => Text.Padded v.toList t.toList)
      ["B-2", "C-3"] [" B-2", "C-3\t"] :=
    .cons ⟨[' '], [], List.forall_mem_singleton.mpr rfl, List.forall_mem_nil _, rfl⟩
      (.cons ⟨[], ['\t'], List.forall_mem_nil _, List.forall_mem_singleton.mpr rfl, rfl⟩ .nil)
  obtain ⟨membership, joined⟩ := membership_answers "lines__sku"
  have satisfied := (membership plain " C-3 ,, B-2" (by simp [read]) Condition.orderLines).2.2
  rw [read] at satisfied
  have text : ",".intercalate [" B-2", "C-3\t"] = " B-2,C-3\t" := by decide +kernel
  have listed := joined ["B-2", "C-3"] [" B-2", "C-3\t"] (by simp) each padded
  rw [text] at listed
  exact ⟨plain, read, by decide +kernel, satisfied.mpr ⟨"B-2", by simp, by decide +kernel⟩, each,
    padded, listed⟩

end Json
end SavedFilter
