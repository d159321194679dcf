import SavedFilter.Condition.Match
import SavedFilter.Proofs.Operand
import SavedFilter.Proofs.Text.Doubled

/-! # The values that a path reaches

A path is walked one segment at a time, and every array on the way, or at the end, is opened one
level: the walk goes on from one of its items, but from none that is an array again. A comparison
other than a null check holds of a record exactly when it holds of a value that such a walk ends
at, `compare_holds_iff`. -/
set_option autoImplicit false
namespace SavedFilter

/-- The segments spell the path with two underscores between them, and these are found as far to the
left as they can be: no segment has two in a row, and none but the last ends in one. -/
def Field.CutInto (path : String) (segments : List String) : Prop :=
  segments ≠ [] ∧ "__".intercalate segments = path ∧
    (∀ s ∈ segments, ¬ ['_', '_'] <:+: s.toList) ∧
      ∀ s ∈ segments.dropLast, s.toList.getLast? ≠ some '_'

theorem Field.cutInto_segments (path : String) : CutInto path (segments path) := by
  refine ⟨by simp [segments, Text.splitOnDouble_ne_nil], ?_, fun s member => ?_, fun s member => ?_⟩
  · apply String.toList_injective
    rw [String.toList_intercalate, segments, List.map_map]
    simpa [Function.comp_def] using Text.intercalate_splitOnDouble path.toList
  · obtain ⟨part, isPart, rfl⟩ := List.mem_map.mp member
    rw [String.toList_ofList]
    exact Text.undoubled_of_mem_splitOnDouble isPart
  · rw [segments, ← List.map_dropLast] at member
    obtain ⟨part, isPart, rfl⟩ := List.mem_map.mp member
    rw [String.toList_ofList]
    exact Text.getLast?_of_mem_dropLast_splitOnDouble isPart

namespace Json

def isArray : Json → Bool
  | array _ => true
  | _ => false

/-- The value that a walk goes on from: the one it stands at, or an item of it if that is an
array. -/
inductive Opens : Json → Json → Prop where
  | self {v : Json} (plain : v.isArray = false) : Opens v v
  | item {items : List Json} {w : Json} (member : w ∈ items) (plain : w.isArray = false) :
      Opens (array items) w

/-- A walk along the segments leads from one value to another. -/
inductive Reaches : List String → Json → Json → Prop where
  | last {v w : Json} (opens : Opens v w) : Reaches [] v w
  | step {segment : String} {rest : List String} {v w next z : Json} (opens : Opens v w)
      (found : w.member? segment = some next) (later : Reaches rest next z) :
      Reaches (segment :: rest) v z

theorem opens_iff {v w : Json} : Opens v w ↔ w ∈ v.opened ∧ w.isArray = false := by
  constructor
  · rintro (plain | ⟨member, plain⟩)
    · cases v with
      | array items => cases plain
      | null | bool _ | integer _ | float _ | string _ | object _ =>
        exact ⟨List.mem_singleton_self _, rfl⟩
    · exact ⟨member, plain⟩
  · rintro ⟨member, plain⟩
    cases v with
    | array items => exact .item member plain
    | null | bool _ | integer _ | float _ | string _ | object _ =>
      obtain rfl := List.mem_singleton.mp member
      exact .self plain

theorem isArray_of_member? {w next : Json} {segment : String}
    (found : w.member? segment = some next) : w.isArray = false := by
  cases w with
  | array items => cases found
  | null | bool _ | integer _ | float _ | string _ | object _ => rfl

/-- One step of all walks at once: the members found behind the opened values. -/
theorem mem_members_iff {segment : String} {values : List Json} {next : Json} :
    next ∈ (values.flatMap opened).filterMap (member? segment) ↔
      ∃ v ∈ values, ∃ w, Opens v w ∧ w.member? segment = some next := by
  simp only [List.mem_filterMap, List.mem_flatMap, opens_iff]
  constructor
  · rintro ⟨w, ⟨v, member, opened⟩, found⟩
    exact ⟨v, member, w, ⟨opened, isArray_of_member? found⟩, found⟩
  · rintro ⟨v, member, w, ⟨opened, _⟩, found⟩
    exact ⟨w, ⟨v, member, opened⟩, found⟩

theorem exists_mem_follow_iff {segments : List String} {values : List Json} {z : Json} :
    (∃ v ∈ follow segments values, Opens v z) ↔ ∃ v ∈ values, Reaches segments v z := by
  induction segments generalizing values with
  | nil =>
    constructor
    · rintro ⟨v, member, opens⟩
      exact ⟨v, member, .last opens⟩
    · rintro ⟨v, member, ⟨opens⟩⟩
      exact ⟨v, member, opens⟩
  | cons segment rest ih =>
    rw [follow, ih]
    constructor
    · rintro ⟨next, member, later⟩
      obtain ⟨v, vMem, w, opens, found⟩ := mem_members_iff.mp member
      exact ⟨v, vMem, .step opens found later⟩
    · rintro ⟨v, member, later⟩
      cases later with
      | step opens found later =>
        exact ⟨_, mem_members_iff.mpr ⟨v, member, _, opens, found⟩, later⟩

/-- What a path reaches in a record, the arrays apart, is what the walks along it end at. -/
theorem mem_resolve_iff {record w : Json} {path : String} :
    w ∈ record.resolve path ∧ w.isArray = false ↔
      Reaches (Field.segments path) record w := by
  have walks : (∃ v ∈ follow (Field.segments path) [record], Opens v w) ↔
      Reaches (Field.segments path) record w := by
    rw [exists_mem_follow_iff]
    simp
  rw [← walks, resolve, List.mem_flatMap]
  simp only [opens_iff]
  constructor
  · rintro ⟨⟨v, member, opened⟩, plain⟩
    exact ⟨v, member, opened, plain⟩
  · rintro ⟨v, member, opened, plain⟩
    exact ⟨⟨v, member, opened⟩, plain⟩

/-! ## Comparisons of the values -/

theorem compareWith_array (items : List Json) (v : Value) :
    (array items).compareWith v = none := by
  cases v <;> rfl

theorem equals_array (items : List Json) (v : Value) : (array items).equals v = false := by
  rw [equals, compareWith_array]
  rfl

end Json

theorem Lookup.holdsOf_array (lookup : Lookup) (items : List Json) (v : Value) :
    lookup.holdsOf (.array items) v = false := by
  cases lookup with
  | contains | startsWith | endsWith | year | month | day | onDate => rfl
  | less | greater | atMost | atLeast => simp only [holdsOf, Json.compareWith_array]
  | equals | oneOf | dateRange | isNull | isNotNull | isTrue | isFalse =>
    exact Json.equals_array items v

namespace Operand

variable {lookup : Lookup}

theorem holdsOf_scalar (noNullCheck : lookup ≠ .isNull ∧ lookup ≠ .isNotNull) (v : Value)
    (values : List Json) :
    (scalar v).holdsOf lookup values = values.any (lookup.holdsOf · v) := by
  cases lookup with
  | isNull => exact absurd rfl noNullCheck.1
  | isNotNull => exact absurd rfl noNullCheck.2
  | equals | contains | startsWith | endsWith | oneOf | onDate | dateRange | year | month | day
  | isTrue | isFalse | less | greater | atMost | atLeast => rfl

/-- Only null checks ask about more than one value at a time. -/
theorem holdsOf_eq_any (operand : Operand) (noNullCheck : lookup ≠ .isNull ∧ lookup ≠ .isNotNull)
    (values : List Json) :
    operand.holdsOf lookup values = values.any fun w => operand.holdsOf lookup [w] := by
  cases operand with
  | scalar v => simp [holdsOf_scalar noNullCheck]
  | list vs => simp [holdsOf]
  | range first last => simp [holdsOf]

theorem holdsOf_array (operand : Operand) (noNullCheck : lookup ≠ .isNull ∧ lookup ≠ .isNotNull)
    (items : List Json) : operand.holdsOf lookup [.array items] = false := by
  cases operand with
  | scalar v => simp [holdsOf_scalar noNullCheck, Lookup.holdsOf_array]
  | list vs => simp [holdsOf, Json.equals_array]
  | range first last => simp [holdsOf, Json.isWithin, Json.compareWith_array]

end Operand

namespace Condition

/-- A comparison holds of a record if it holds of one value by itself that a walk along the segments
of the path ends at. -/
theorem compare_holds_iff (record : Json) (path : String) (operand : Operand) {lookup : Lookup}
    (noNullCheck : lookup ≠ .isNull ∧ lookup ≠ .isNotNull) :
    Field.CutInto path (Field.segments path) ∧
      ((compare path lookup operand).holds record = true ↔
        ∃ w, Json.Reaches (Field.segments path) record w ∧ operand.holdsOf lookup [w] = true) := by
  refine ⟨Field.cutInto_segments path, ?_⟩
  rw [holds, operand.holdsOf_eq_any noNullCheck, List.any_eq_true]
  constructor
  · rintro ⟨w, member, holds⟩
    have plain : w.isArray = false := by
      cases w with
      | array items =>
        rw [operand.holdsOf_array noNullCheck] at holds
        cases holds
      | null | bool _ | integer _ | float _ | string _ | object _ => rfl
    exact ⟨w, Json.mem_resolve_iff.mp ⟨member, plain⟩, holds⟩
  · rintro ⟨w, reached, holds⟩
    exact ⟨w, (Json.mem_resolve_iff.mpr reached).1, holds⟩

/-- Two lines of an order, one of them inside an inner array that is passed over. -/
def orderLines : Json :=
  .array [.object [("lines", .array [.object [("sku", .string "A-1")],
    .array [.object [("sku", .string "C-3")]],
    .object [("sku", .array [.string "B-2", .null])]])]]

theorem compare_holds_iff_lines :
    (Lookup.oneOf ≠ .isNull ∧ Lookup.oneOf ≠ .isNotNull) ∧
      (∃ w, Json.Reaches ["lines", "sku"] orderLines w ∧
        (Operand.list [.string "B-2"]).holdsOf .oneOf [w] = true) ∧
      ¬ ∃ w, Json.Reaches ["lines", "sku"] orderLines w ∧
        (Operand.list [.string "C-3"]).holdsOf .oneOf [w] = true := by
  have noNullCheck : Lookup.oneOf ≠ .isNull ∧ Lookup.oneOf ≠ .isNotNull := by decide
  have segments : Field.segments "lines__sku" = ["lines", "sku"] := by decide
  have second :=
    (compare_holds_iff orderLines "lines__sku" (.list [.string "B-2"]) noNullCheck).2
  have inner :=
    (compare_holds_iff orderLines "lines__sku" (.list [.string "C-3"]) noNullCheck).2
  rw [segments] at second inner
  exact ⟨noNullCheck, second.mp (by decide), (not_congr inner).mp (by decide)⟩

end Condition

/-! ## Answers to the value of a term -/

/-- Whether the record satisfies the lookup with the value of a term, if the value suits it. -/
def Json.answer (record : Json) (field : String) (lookup : Lookup) (value : String) :
    Except TermError Bool :=
  (Operand.parse field lookup (some value)).map fun operand =>
    (Condition.compare field lookup operand).holds record

theorem Json.answer_of_parse {record : Json} {field value : String} {lookup : Lookup}
    {operand : Operand} (parsed : Operand.parse field lookup (some value) = .ok operand) :
    record.answer field lookup value = .ok (operand.holdsOf lookup (record.resolve field)) := by
  rw [answer, parsed]
  rfl

theorem Json.answer_single {record json : Json} {field value : String} {lookup : Lookup} {v : Value}
    (noNullCheck : lookup ≠ .isNull ∧ lookup ≠ .isNotNull)
    (parsed : Operand.parse field lookup (some value) = .ok (.scalar v))
    (reached : record.resolve field = [json]) :
    record.answer field lookup value = .ok (lookup.holdsOf json v) := by
  rw [answer_of_parse parsed, reached, Operand.holdsOf_scalar noNullCheck]
  simp

theorem Lookup.no_null_check_of_isOrdering {lookup : Lookup} (ordering : lookup.isOrdering) :
    lookup ≠ .isNull ∧ lookup ≠ .isNotNull := by
  constructor <;> rintro rfl <;> cases ordering

end SavedFilter
