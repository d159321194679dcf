import SavedFilter.Condition.Match
import SavedFilter.Proofs.FirstSeen

/-! # The fields of a condition

A condition lists the fields of its comparisons, each once, in the order in which they are first
compared, from the left. The list misses nothing: of a record the condition asks for what these
fields reach, and for nothing else, `Condition.fields_determine`. -/
set_option autoImplicit false
namespace SavedFilter.Condition

/-- The field of every comparison, from the left, as often as it is compared. -/
def compared : Condition → List String
  | always => []
  | compare field _ _ => [field]
  | not c => c.compared
  | and left right | or left right => left.compared ++ right.compared

theorem firstSeen_fieldsFrom {kept items : List String} (seen : FirstSeen kept items)
    (c : Condition) : FirstSeen (c.fieldsFrom kept) (items ++ c.compared) := by
  induction c generalizing kept items with
  | always => rwa [compared, List.append_nil]
  | compare field lookup operand => exact seen.see field
  | not c ih => exact ih seen
  | and left right ihLeft ihRight | or left right ihLeft ihRight =>
    rw [compared, ← List.append_assoc]
    exact ihRight (ihLeft seen)

theorem firstSeen_fields (c : Condition) : FirstSeen c.fields c.compared :=
  firstSeen_fieldsFrom .nil c

/-- What a condition tells of a record depends on what its comparisons reach there. -/
theorem holds_congr {record record' : Json} (c : Condition)
    (same : ∀ path ∈ c.compared, record.resolve path = record'.resolve path) :
    c.holds record = c.holds record' := by
  induction c with
  | always => rfl
  | compare field lookup operand =>
    rw [holds, holds, same field (List.mem_singleton_self field)]
  | not c ih => rw [holds, holds, ih same]
  | and left right ihLeft ihRight | or left right ihLeft ihRight =>
    have leftSame := ihLeft fun path member => same path (List.mem_append_left _ member)
    have rightSame := ihRight fun path member => same path (List.mem_append_right _ member)
    rw [holds, holds, leftSame, rightSame]

/-- The fields are those of the comparisons, each once and in the order of their first comparison,
and records in which they reach the same values are told apart by nothing else. -/
theorem fields_determine (c : Condition) :
    c.fields.Nodup ∧ FirstSeen c.fields c.compared ∧
      ∀ record record' : Json,
        (∀ path ∈ c.fields, record.resolve path = record'.resolve path) →
          c.holds record = c.holds record' := by
  have seen := c.firstSeen_fields
  refine ⟨seen.nodup, seen, fun record record' same => c.holds_congr fun path member => ?_⟩
  exact same path ((seen.mem_iff path).mpr member)

/-- A customer is named twice, before and behind a status. -/
def paidByAda : Condition :=
  .or (.and (.compare "customer__name" .equals (.scalar (.string "Ada")))
      (.compare "status" .equals (.scalar (.string "paid"))))
    (.not (.compare "customer__name" .contains (.scalar (.string "a"))))

def paidOrder : Json :=
  .object [("customer", .object [("name", .string "Ada")]), ("status", .string "paid")]

/-- The customer stands in a list, and there is a member that no comparison looks at. -/
def paidOrderListed : Json :=
  .object [("customer", .array [.object [("name", .string "Ada")]]), ("status", .string "paid"),
    ("total", .integer 12)]

theorem fields_determine_paidByAda :
    paidByAda.fields = ["customer__name", "status"] ∧
      (∀ path ∈ paidByAda.fields, paidOrder.resolve path = paidOrderListed.resolve path) ∧
      paidByAda.holds paidOrder = paidByAda.holds paidOrderListed := by
  have listed : paidByAda.fields = ["customer__name", "status"] := by decide
  have same : ∀ path ∈ paidByAda.fields, paidOrder.resolve path = paidOrderListed.resolve path := by
    rw [listed]
    intro path member
    obtain rfl | rfl : path = "customer__name" ∨ path = "status" := by simpa using member
    · rfl
    · rfl
  exact ⟨listed, same, (fields_determine paidByAda).2.2 paidOrder paidOrderListed same⟩

end SavedFilter.Condition
