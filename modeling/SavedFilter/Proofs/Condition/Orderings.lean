import Mathlib.Tactic.NormNum
import SavedFilter.Proofs.Condition.Reach
import SavedFilter.Proofs.Number.Numeral
import SavedFilter.Proofs.Number.Order

/-! # Numbers in records and in terms are ordered as numbers

On a field that holds no dates a term with a number is compared with the numbers of records, and
with the texts there that are numbers: the orderings hold as the exact numbers are ordered, however
the two are written, and of any other value no ordering holds, `ordering_answers`. -/
set_option autoImplicit false
namespace SavedFilter

variable {field raw : String} {lookup : Lookup} {json record : Json} {x y : Decimal}

/-! ## What is read -/

theorem Decimal.isBlankText_of_ofText? (read : ofText? (Text.trim raw.toList) = some x) :
    Text.isBlankText raw = false := by
  rw [Text.isBlankText, List.isEmpty_eq_false_iff]
  intro blank
  rw [blank] at read
  cases read

theorem Operand.parse_ordering_number (ordering : lookup.isOrdering)
    (plain : Field.namesDate field = false)
    (read : Decimal.ofText? (Text.trim raw.toList) = some x) :
    parse field lookup (some raw) = .ok (.scalar (.decimal x)) := by
  have filled := Decimal.isBlankText_of_ofText? read
  have number : orderable raw = .decimal x := by rw [orderable, read]
  cases lookup with
  | less | greater | atMost | atLeast =>
    rw [parse, required_bind filled, if_neg (by simp [plain]), number]
    rfl
  | equals | contains | startsWith | endsWith | oneOf | onDate | dateRange | year | month | day
  | isNull | isNotNull | isTrue | isFalse => cases ordering

namespace Json

/-- The value is a number, or a string with blanks around it at most, with the text of a decimal. -/
inductive HoldsDecimal : Json → Decimal → Prop where
  | string {s : String} {y : Decimal} (read : Decimal.ofText? (Text.trim s.toList) = some y) :
      HoldsDecimal (string s) y
  | integer {n : Int} {y : Decimal} (read : Decimal.ofText? (toString n).toList = some y) :
      HoldsDecimal (integer n) y
  | float {z : Binary64} {y : Decimal} (read : Decimal.ofText? z.toText = some y) :
      HoldsDecimal (float z) y

theorem toDecimal?_eq_some_iff : json.toDecimal? = some y ↔ json.HoldsDecimal y := by
  constructor
  · intro read
    cases json with
    | string s => exact .string read
    | integer n => exact .integer read
    | float z =>
      simp only [toDecimal?, word?, Option.bind_some, String.toList_ofList] at read
      exact .float read
    | null | bool _ | array _ | object _ => cases read
  · intro held
    cases held with
    | string read | integer read => exact read
    | float read =>
      simp only [toDecimal?, word?, Option.bind_some, String.toList_ofList]
      exact read

theorem toDecimal?_eq_none_iff : json.toDecimal? = none ↔ ¬ ∃ y, json.HoldsDecimal y := by
  simp only [← toDecimal?_eq_some_iff, Option.eq_none_iff_forall_ne_some, not_exists]

end Json

/-! ## What orderings accept -/

namespace Lookup

/-- An ordering accepts the outcome of a comparison if what was compared is in that order. -/
theorem accepts_of_compares {α : Type} [LinearOrder α] {p q : α} {o : Ordering}
    (compared : o.Compares p q) :
    less.accepts o = decide (p < q) ∧ atMost.accepts o = decide (p ≤ q) ∧
      greater.accepts o = decide (q < p) ∧ atLeast.accepts o = decide (q ≤ p) := by
  refine ⟨?_, ?_, ?_, ?_⟩ <;> rw [Bool.eq_iff_iff, decide_eq_true_eq]
  · rw [← compared.eq_lt]
    exact beq_iff_eq
  · rw [← compared.ne_gt]
    exact bne_iff_ne
  · rw [← compared.eq_gt]
    exact beq_iff_eq
  · rw [← compared.ne_lt]
    exact bne_iff_ne

theorem holdsOf_ordering_decimal (ordering : lookup.isOrdering) (json : Json) (x : Decimal) :
    lookup.holdsOf json (.decimal x) =
      match json.toDecimal? with
      | some y => lookup.accepts (Decimal.compare y x)
      | none => false := by
  have compared : json.compareWith (.decimal x) = json.toDecimal?.map (Decimal.compare · x) := by
    rw [Json.compareWith, Json.asKindOf]
    cases json.toDecimal? <;> rfl
  cases lookup with
  | less | greater | atMost | atLeast =>
    rw [holdsOf, compared]
    cases json.toDecimal? <;> rfl
  | equals | contains | startsWith | endsWith | oneOf | onDate | dateRange | year | month | day
  | isNull | isNotNull | isTrue | isFalse => cases ordering

end Lookup

/-! ## Answers about a number -/

namespace Json

theorem answer_ordering_decimal (ordering : lookup.isOrdering)
    (plain : Field.namesDate field = false)
    (read : Decimal.ofText? (Text.trim raw.toList) = some x)
    (reached : record.resolve field = [json]) :
    record.answer field lookup raw =
      .ok (match json.toDecimal? with
        | some y => lookup.accepts (Decimal.compare y x)
        | none => false) := by
  rw [answer_single (Lookup.no_null_check_of_isOrdering ordering)
    (Operand.parse_ordering_number ordering plain read) reached,
    Lookup.holdsOf_ordering_decimal ordering]

/-- A record with one value in a field that holds no dates answers for a number: if the value is a
number too, or a text that is one, the orderings are those of the exact numbers, and otherwise
none of them holds. A decimal is the number that is written, in whichever way it is written. -/
theorem ordering_answers (plain : Field.namesDate field = false)
    (read : Decimal.ofText? (Text.trim raw.toList) = some x)
    (reached : record.resolve field = [json]) :
    (∀ y, json.HoldsDecimal y →
      record.answer field .less raw = .ok (decide (y.toRat < x.toRat)) ∧
      record.answer field .atMost raw = .ok (decide (y.toRat ≤ x.toRat)) ∧
      record.answer field .greater raw = .ok (decide (x.toRat < y.toRat)) ∧
      record.answer field .atLeast raw = .ok (decide (x.toRat ≤ y.toRat))) ∧
    ((¬ ∃ y, json.HoldsDecimal y) →
      ∀ lookup, lookup.isOrdering → record.answer field lookup raw = .ok false) ∧
    ∀ (n : Numeral) (d : Decimal), Decimal.ofText? n.text = some d → d.toRat = n.value := by
  refine ⟨fun y held => ?_, fun noneHeld lookup ordering => ?_, fun n d => n.toRat_of_ofText?⟩
  · obtain ⟨less, atMost, greater, atLeast⟩ :=
      Lookup.accepts_of_compares (Decimal.compare_compares y x)
    have answer {lookup : Lookup} (ordering : lookup.isOrdering) :
        record.answer field lookup raw = .ok (lookup.accepts (Decimal.compare y x)) := by
      rw [answer_ordering_decimal ordering plain read reached, toDecimal?_eq_some_iff.mpr held]
    exact ⟨by rw [answer rfl, less], by rw [answer rfl, atMost], by rw [answer rfl, greater],
      by rw [answer rfl, atLeast]⟩
  · rw [answer_ordering_decimal ordering plain read reached,
      toDecimal?_eq_none_iff.mpr noneHeld]

def writtenTotal : Json := .object [("total", .string "+1.250E2 ")]

def scientificTotal : Numeral where
  sign := .plus
  whole := ['1']
  fraction := some ['2', '5', '0']
  exponent := some ⟨'E', .none, ['2'], rfl, by simp, by simp [AreDigits]⟩
  spaced := ⟨⟨'1', ['2', '5', '0'], rfl, rfl⟩, by simp [Char.isDigit]⟩

theorem ordering_answers_total :
    Field.namesDate "total" = false ∧
      Decimal.ofText? (Text.trim " 1_25".toList) = some ⟨125, 0⟩ ∧
      writtenTotal.resolve "total" = [string "+1.250E2 "] ∧
      (string "+1.250E2 ").HoldsDecimal ⟨1250, 1⟩ ∧
      writtenTotal.answer "total" .less " 1_25" = .ok false ∧
      writtenTotal.answer "total" .atMost " 1_25" = .ok true ∧
      writtenTotal.answer "total" .greater " 1_25" = .ok false ∧
      writtenTotal.answer "total" .atLeast " 1_25" = .ok true ∧
      (object [("total", bool true)]).answer "total" .less " 1_25" = .ok false ∧
      Decimal.ofText? scientificTotal.text = some ⟨1250, 1⟩ ∧
      Decimal.toRat ⟨1250, 1⟩ = scientificTotal.value := by
  have plain : Field.namesDate "total" = false := by decide +kernel
  have read : Decimal.ofText? (Text.trim " 1_25".toList) = some ⟨125, 0⟩ := by decide +kernel
  have reached : writtenTotal.resolve "total" = [string "+1.250E2 "] := rfl
  have held : (string "+1.250E2 ").HoldsDecimal ⟨1250, 1⟩ := .string (by decide +kernel)
  have reached' : (object [("total", bool true)]).resolve "total" = [bool true] := rfl
  have noneHeld : ¬ ∃ y, (bool true).HoldsDecimal y := by
    rintro ⟨y, held⟩
    cases held
  have written : Decimal.ofText? scientificTotal.text = some ⟨1250, 1⟩ := by decide +kernel
  have same : Decimal.toRat ⟨1250, 1⟩ = Decimal.toRat ⟨125, 0⟩ := by
    have one : (1 : Int64).toInt = 1 := rfl
    have zero : (0 : Int64).toInt = 0 := rfl
    norm_num [Decimal.toRat, one, zero]
  obtain ⟨answers, -, numerals⟩ := ordering_answers plain read reached
  obtain ⟨less, atMost, greater, atLeast⟩ := answers _ held
  have none := (ordering_answers plain read reached').2.1 noneHeld .less rfl
  simp only [same, lt_irrefl, le_refl, decide_true, decide_false] at less atMost greater atLeast
  exact ⟨plain, read, reached, held, less, atMost, greater, atLeast, none, written,
    numerals _ _ written⟩

end Json
end SavedFilter
