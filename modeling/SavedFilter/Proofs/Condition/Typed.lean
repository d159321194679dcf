import SavedFilter.Proofs.Compile.Upheld
import SavedFilter.Proofs.Condition.Compiled
import SavedFilter.Proofs.Condition.Membership
import SavedFilter.Proofs.Sql.QueryReading

/-! # Compiled conditions are well typed

A term is refused unless its value can be read for its lookup and its field. So the operands of a
compiled condition have the shape that their lookups need, `Condition.WellTyped`, whatever the
schema is, and the statement that is written for such a condition tests what the lookups ask for: a
null check is never turned round by its operand and a list of values is never empty,
`Condition.compiled_wellTyped`. -/
set_option autoImplicit false
namespace SavedFilter

open Sql Fragment

/-! ## The shapes of operands -/

namespace Operand

def IsDate (operand : Operand) : Prop := ∃ d, operand = .scalar (.date d)

def IsInteger (operand : Operand) : Prop := ∃ n, operand = .scalar (.integer n)

def IsDecimal (operand : Operand) : Prop := ∃ d, operand = .scalar (.decimal d)

def IsText (operand : Operand) : Prop :=
  ∃ s, operand = .scalar (.string s) ∧ Text.isBlankText s = false

/-- The operand has the shape that a comparison of the field by the lookup needs. -/
def Suits (operand : Operand) (field : String) : Lookup → Prop
  | .isNull | .isTrue => operand = .scalar (.boolean true)
  | .isNotNull | .isFalse => operand = .scalar (.boolean false)
  | .oneOf => ∃ vs ≠ [], operand = .list (vs.map .string) ∧ ∀ v ∈ vs, IsItem v
  | .dateRange => ∃ first last, operand = .range (.date first) (.date last)
  | .onDate => operand.IsDate
  | .year | .month | .day => operand.IsInteger
  | .equals => if Field.namesDate field then operand.IsDate else operand.IsText
  | .less | .greater | .atMost | .atLeast =>
    if Field.namesDate field then operand.IsDate else operand.IsDecimal ∨ operand.IsText
  | .contains | .startsWith | .endsWith => operand.IsText

variable {field : String} {lookup : Lookup} {raw : Option String} {text : String}
  {operand : Operand}

theorem ofDate_ok (h : ofDate text = .ok operand) : operand.IsDate := by
  rw [ofDate] at h
  split at h
  · exact ⟨_, (Except.ok.inj h).symm⟩
  · cases h

theorem ofDates_ok (h : ofDates text = .ok operand) :
    ∃ first last, operand = .range (.date first) (.date last) := by
  rw [ofDates] at h
  split at h
  · exact ⟨_, _, (Except.ok.inj h).symm⟩
  · cases h

theorem ofNumber_ok (h : ofNumber text = .ok operand) : operand.IsInteger := by
  rw [ofNumber] at h
  split at h
  · exact ⟨_, (Except.ok.inj h).symm⟩
  · cases h

theorem ofItems_ok (h : ofItems lookup text = .ok operand) :
    ∃ vs ≠ [], operand = .list (vs.map .string) ∧ ∀ v ∈ vs, IsItem v := by
  rw [ofItems] at h
  split at h
  · cases h
  · rename_i someItem
    exact ⟨items text, someItem, (Except.ok.inj h).symm, fun v => isItem_of_mem_items⟩

theorem orderable_isDecimal_or_isText (filled : Text.isBlankText text = false) :
    (scalar (orderable text)).IsDecimal ∨ (scalar (orderable text)).IsText := by
  rw [orderable]
  split
  · exact .inl ⟨_, rfl⟩
  · exact .inr ⟨text, rfl, filled⟩

/-- What a value is read as suits the lookup and the field that it was read for. -/
theorem parse_suits (h : parse field lookup raw = .ok operand) : operand.Suits field lookup := by
  cases lookup with
  | isNull | isNotNull | isTrue | isFalse => exact (Except.ok.inj h).symm
  | contains | startsWith | endsWith =>
    obtain ⟨text, filled, read⟩ := required_bind_ok h
    exact ⟨text, (Except.ok.inj read).symm, filled⟩
  | oneOf =>
    obtain ⟨text, _, read⟩ := required_bind_ok h
    exact ofItems_ok read
  | onDate =>
    obtain ⟨text, _, read⟩ := required_bind_ok h
    exact ofDate_ok read
  | dateRange =>
    obtain ⟨text, _, read⟩ := required_bind_ok h
    exact ofDates_ok read
  | year | month | day =>
    obtain ⟨text, _, read⟩ := required_bind_ok h
    exact ofNumber_ok read
  | equals =>
    obtain ⟨text, filled, read⟩ := required_bind_ok h
    rw [Suits]
    split at read
    · rename_i dated
      rw [if_pos dated]
      exact ofDate_ok read
    · rename_i plain
      rw [if_neg plain]
      exact ⟨text, (Except.ok.inj read).symm, filled⟩
  | less | greater | atMost | atLeast =>
    obtain ⟨text, filled, read⟩ := required_bind_ok h
    rw [Suits]
    split at read
    · rename_i dated
      rw [if_pos dated]
      exact ofDate_ok read
    · rename_i plain
      rw [if_neg plain, ← Except.ok.inj read]
      exact orderable_isDecimal_or_isText filled

theorem Suits.eq_scalar (suits : operand.Suits field lookup) (noList : lookup ≠ .oneOf)
    (noRange : lookup ≠ .dateRange) : ∃ v, operand = .scalar v := by
  have ofDate : operand.IsDate → ∃ v, operand = .scalar v := fun ⟨d, date⟩ => ⟨.date d, date⟩
  have ofText : operand.IsText → ∃ v, operand = .scalar v :=
    fun ⟨s, text, _⟩ => ⟨.string s, text⟩
  have ofDecimal : operand.IsDecimal → ∃ v, operand = .scalar v :=
    fun ⟨d, decimal⟩ => ⟨.decimal d, decimal⟩
  cases lookup with
  | isNull | isNotNull | isTrue | isFalse => exact ⟨_, suits⟩
  | oneOf => exact absurd rfl noList
  | dateRange => exact absurd rfl noRange
  | onDate => exact ofDate suits
  | year | month | day =>
    obtain ⟨n, integer⟩ := suits
    exact ⟨.integer n, integer⟩
  | contains | startsWith | endsWith => exact ofText suits
  | equals =>
    rw [Suits] at suits
    split at suits
    · exact ofDate suits
    · exact ofText suits
  | less | greater | atMost | atLeast =>
    rw [Suits] at suits
    split at suits
    · exact ofDate suits
    · exact suits.elim ofDecimal ofText

end Operand

/-! ## Well-typed conditions -/

namespace Condition

def WellTyped : Condition → Prop
  | always => True
  | compare field lookup operand => operand.Suits field lookup
  | not c => c.WellTyped
  | and left right | or left right => left.WellTyped ∧ right.WellTyped

theorem wellTyped_ofTerm {schema : Option Schema} {field : String} {lookup : Lookup}
    {value : Option String} {c : Condition} (h : ofTerm schema field lookup value = .ok c) :
    c.WellTyped := by
  have unbound (h : ofTerm none field lookup value = .ok c) : c.WellTyped := by
    rw [ofTerm_none] at h
    cases parsed : Operand.parse field lookup value with
    | error cause =>
      rw [parsed] at h
      cases h
    | ok operand =>
      rw [parsed] at h
      obtain rfl := Except.ok.inj h
      exact Operand.parse_suits parsed
  cases schema with
  | none => exact unbound h
  | some s =>
    cases allowed : s.allows field with
    | false =>
      rw [ofTerm_refused allowed] at h
      cases h
    | true =>
      rw [ofTerm_allowed allowed] at h
      exact unbound h

theorem upholds_wellTyped (schema : Option Schema) :
    (conditionBuilder schema).Upholds WellTyped where
  compare field lookup value := by
    rw [yields_id]
    exact fun c given => wellTyped_ofTerm given
  not p typed := (ensures_id _).mpr typed
  join c p q left right := by
    rw [ensures_id]
    cases c with
    | and | or => exact ⟨left, right⟩
  always := (ensures_id _).mpr trivial

end Condition

/-! ## What statements test -/

namespace Sql

def Predicate.tests : Predicate → List Test
  | always => []
  | compare _ t => [t]
  | not p => p.tests
  | and left right | or left right => left.tests ++ right.tests

/-- The test is a null check only if the lookup is, and then the same one; it has a list of values
only if the lookup has, and then some value is listed. -/
structure Test.Follows (t : Test) (lookup : Lookup) : Prop where
  null_iff : t = .null ↔ lookup = .isNull
  notNull_iff : t = .notNull ↔ lookup = .isNotNull
  oneOf_iff : (∃ marks, t = .oneOf marks) ↔ lookup = .oneOf
  someMark : t ≠ .oneOf []

theorem Test.follows_operator {lookup : Lookup} (symbol mark : String)
    (noNull : lookup ≠ .isNull) (noNotNull : lookup ≠ .isNotNull) (noList : lookup ≠ .oneOf) :
    (operator symbol mark).Follows lookup := by
  constructor <;> simp [noNull, noNotNull, noList]

theorem Test.follows_ofComparison (d : Dialect) (index : Nat) {field : String} {lookup : Lookup}
    {operand : Operand} (suits : operand.Suits field lookup) :
    (ofComparison d index lookup operand).Follows lookup := by
  cases lookup with
  | isNull =>
    obtain rfl : operand = .scalar (.boolean true) := suits
    have null : ofComparison d index .isNull (.scalar (.boolean true)) = .null := rfl
    rw [null]
    constructor <;> simp
  | isNotNull =>
    obtain rfl : operand = .scalar (.boolean false) := suits
    have asNotNull : ofComparison d index .isNotNull (.scalar (.boolean false)) = .notNull := rfl
    rw [asNotNull]
    constructor <;> simp
  | oneOf =>
    obtain ⟨vs, someItem, rfl, _⟩ := suits
    constructor <;> simp [ofComparison, someItem]
  | dateRange =>
    obtain ⟨first, last, rfl⟩ := suits
    constructor <;> simp [ofComparison]
  | equals | contains | startsWith | endsWith | onDate | year | month | day | isTrue | isFalse
  | less | greater | atMost | atLeast =>
    obtain ⟨v, rfl⟩ := suits.eq_scalar (by simp) (by simp)
    exact follows_operator _ _ (by simp) (by simp) (by simp)

/-- One comparison after the other, the tests of a well-typed condition follow its lookups. -/
theorem follows_predicate (d : Dialect) (base : Option String) {c : Condition} (typed : c.WellTyped)
    (index : Nat) :
    List.Forall₂ Test.Follows (c.predicate d base index).tests (c.comparisons.map Prod.fst) := by
  induction c generalizing index with
  | always => exact .nil
  | compare field lookup operand => exact .cons (Test.follows_ofComparison d index typed) .nil
  | not c ih => exact ih typed index
  | and left right ihLeft ihRight | or left right ihLeft ihRight =>
    rw [Condition.comparisons, List.map_append]
    exact List.rel_append (ihLeft typed.1 _) (ihRight typed.2 _)

theorem disjunction?_condition (d : Dialect) (base : Option String) (c : Condition) (index : Nat) :
    disjunction? (lexemesFrom d index (c.sql d base)) = some (c.predicate d base index, []) := by
  have read := disjunction?_single (negation?_condition d base c index []) (by simp [EndsCondition])
  rwa [List.append_nil] at read

end Sql

/-- A compiled condition is well typed, whatever the schema is. Its statement, and that of any query
for it, is read back with tests that follow the lookups of the condition, one after the other. -/
theorem Condition.compiled_wellTyped {schema : Option Schema} {ts : List Term} {c : Condition}
    (compiled : (conditionBuilder schema).terms ts = pure c) :
    c.WellTyped ∧
    (∀ d, ∃ lexemes p, lex d (c.statement d).text = some lexemes ∧
      disjunction? lexemes = some (p, []) ∧
      List.Forall₂ Test.Follows p.tests (c.comparisons.map Prod.fst)) ∧
    ∀ d (q : Query), q.condition = c → ∃ lexemes s, lex d (q.statement d).text = some lexemes ∧
      selection? lexemes = some s ∧
      List.Forall₂ Test.Follows s.predicate.tests (c.comparisons.map Prod.fst) := by
  have typed : c.WellTyped :=
    (yields_id _).mp ((upholds_wellTyped schema).terms ts) c compiled
  refine ⟨typed, fun d => ?_, ?_⟩
  · exact ⟨_, _, lex_statement d (wellSpaced_condition d none c), disjunction?_condition d none c 0,
      follows_predicate d none typed 0⟩
  · rintro d q rfl
    refine ⟨_, _, lex_query d q, selection?_query d q, ?_⟩
    rw [q.predicate_selection]
    exact follows_predicate d q.bareTable typed 0

def statusSchema : Schema where
  app := "shop"
  name := "order"
  table := "shop_order"
  fields := [.path "status|stage", .path "payment__paid"]

/-- Orders on which no payment was made, or that are neither new nor open. -/
def statusTerms : List Term :=
  [.atomic "payment__paid" .isNull (some "no"), .control .or,
    .negated "status|stage" .oneOf (some "new ,, open")]

def statusCondition : Condition :=
  .or (.compare "payment__paid" .isNull (.scalar (.boolean true)))
    (.not (.or (.compare "status" .oneOf (.list [.string "new", .string "open"]))
      (.compare "stage" .oneOf (.list [.string "new", .string "open"]))))

theorem Condition.compiled_wellTyped_status :
    (conditionBuilder (some statusSchema)).terms statusTerms = pure statusCondition ∧
      statusCondition.WellTyped ∧
      ∃ lexemes p, lex .mysql (statusCondition.statement .mysql).text = some lexemes ∧
        disjunction? lexemes = some (p, []) ∧
        List.Forall₂ Test.Follows p.tests [.isNull, .oneOf, .oneOf] := by
  have compiled : (conditionBuilder (some statusSchema)).terms statusTerms =
      pure statusCondition := by
    have run : ((conditionBuilder (some statusSchema)).terms statusTerms).run.run =
        .ok statusCondition := by
      decide +kernel
    exact run
  obtain ⟨typed, statement, _⟩ := compiled_wellTyped compiled
  exact ⟨compiled, typed, statement .mysql⟩

end SavedFilter
