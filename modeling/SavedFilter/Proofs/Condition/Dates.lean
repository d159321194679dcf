import SavedFilter.Proofs.Calendar
import SavedFilter.Proofs.Condition.Reach
import SavedFilter.Proofs.Text.Case
import SavedFilter.Proofs.WrittenDate

/-! # Dates in records and in terms compare as dates

On a field that is named for dates, a date of a record, in any of the forms it is written in, and
the date of a term are compared as days of the calendar, whatever the lookup is, `date_answers`. -/
set_option autoImplicit false
namespace SavedFilter

theorem Field.namesDate_of_infix {field : String}
    (named : ['d', 'a', 't', 'e'] <:+: field.toList.map Char.toLower) : namesDate field := by
  rw [namesDate, Text.contains_iff_infix]
  exact Text.date_infix_lower named

/-! ## What terms with dates are read as -/

namespace Operand

variable {field : String} {lookup : Lookup} {a b : Date}

theorem isBlankText_slashedText (d : Date) : Text.isBlankText d.slashedText = false := by
  rw [Date.slashedText]
  exact Text.isBlankText_shown d.shown_slashed d.slashed_ne_nil

theorem ofDate_slashedText (four : a.InFourDigits) :
    ofDate a.slashedText = .ok (.scalar (.date a)) := by
  rw [ofDate, Date.date?_slashedText four]

theorem parse_onDate (four : a.InFourDigits) :
    parse field .onDate (some a.slashedText) = .ok (.scalar (.date a)) := by
  rw [parse, required_bind (isBlankText_slashedText a), ofDate_slashedText four]

theorem parse_equals (named : Field.namesDate field) (four : a.InFourDigits) :
    parse field .equals (some a.slashedText) = .ok (.scalar (.date a)) := by
  rw [parse, required_bind (isBlankText_slashedText a), if_pos named, ofDate_slashedText four]

theorem parse_ordering (ordering : lookup.isOrdering) (named : Field.namesDate field)
    (four : a.InFourDigits) :
    parse field lookup (some a.slashedText) = .ok (.scalar (.date a)) := by
  cases lookup with
  | less | greater | atMost | atLeast =>
    rw [parse, required_bind (isBlankText_slashedText a), if_pos named, ofDate_slashedText four]
  | equals | contains | startsWith | endsWith | oneOf | onDate | dateRange | year | month | day
  | isNull | isNotNull | isTrue | isFalse => cases ordering

def rangeText (a b : Date) (blanks : List Char) : String :=
  String.ofList (a.slashed ++ ',' :: (blanks ++ b.slashed))

theorem comma_notMem_slashed (d : Date) : ',' ∉ d.slashed := by
  intro member
  obtain digit | same | same := Date.isDateChar_slashed member
  · exact absurd digit (by decide)
  · exact absurd same (by decide)
  · exact absurd same (by decide)

theorem dates?_rangeText (four : a.InFourDigits) (four' : b.InFourDigits) {blanks : List Char}
    (blank : ∀ c ∈ blanks, Text.isBlank c) : dates? (rangeText a b blanks) = some (a, b) := by
  have noCommaBehind : ',' ∉ blanks ++ b.slashed := by
    intro member
    obtain inside | inside := List.mem_append.mp member
    · exact absurd (blank _ inside) (by decide)
    · exact comma_notMem_slashed b inside
  have parts : (a.slashed ++ ',' :: (blanks ++ b.slashed)).splitOn ',' =
      [a.slashed, blanks ++ b.slashed] := by
    rw [List.splitOn_append_cons_self_of_not_mem (comma_notMem_slashed a),
      List.splitOn_eq_singleton noCommaBehind]
  have last : date? (String.ofList (blanks ++ b.slashed)) = some b := by
    rw [date?, String.toList_ofList,
      Text.trim_blanks_append blank b.shown_slashed b.slashed_ne_nil]
    exact Date.ofDayMonthYear?_slashed four'
  have first : date? (String.ofList a.slashed) = some a := Date.date?_slashedText four
  rw [dates?, rangeText, String.toList_ofList, parts]
  simp only [first, last, Option.bind_eq_bind, Option.bind_some]
  rfl

theorem parse_dateRange (four : a.InFourDigits) (four' : b.InFourDigits) {blanks : List Char}
    (blank : ∀ c ∈ blanks, Text.isBlank c) :
    parse field .dateRange (some (rangeText a b blanks)) =
      .ok (.range (.date a) (.date b)) := by
  have filled : Text.isBlankText (rangeText a b blanks) = false :=
    Text.isBlankText_append a.shown_slashed a.slashed_ne_nil _
  rw [parse, required_bind filled, ofDates, dates?_rangeText four four' blank]

def partText (width n : Nat) : String := String.ofList (Date.padded width n)

theorem ofNumber_partText (width : Nat) {n : Nat} (small : n < 10000) :
    ∃ w : Int64, w.toInt = n ∧ ofNumber (partText width n) = .ok (.scalar (.integer w)) := by
  have digits := Date.areDigits_padded width n
  have someDigit := Date.padded_ne_nil width n
  have within : Int64.minValue.toInt ≤ (n : Int) ∧ (n : Int) ≤ Int64.maxValue.toInt := by
    have least : Int64.minValue.toInt = -9223372036854775808 := rfl
    have most : Int64.maxValue.toInt = 9223372036854775807 := rfl
    omega
  obtain ⟨w, fits⟩ : ∃ w, int64? (n : Int) = some w := ⟨_, dif_pos within⟩
  refine ⟨w, toInt_of_int64? fits, ?_⟩
  rw [ofNumber, partText, String.toList_ofList, Text.trim_shown digits.shown someDigit,
    digits.integer?_eq someDigit, Date.valueOf_padded, Option.bind_some, fits]

theorem parse_part (part : lookup.isDatePart) (width : Nat) {n : Nat} (small : n < 10000) :
    ∃ w : Int64, w.toInt = n ∧
      parse field lookup (some (partText width n)) = .ok (.scalar (.integer w)) := by
  have filled : Text.isBlankText (partText width n) = false := by
    rw [partText]
    exact Text.isBlankText_shown (Date.areDigits_padded width n).shown (Date.padded_ne_nil width n)
  obtain ⟨w, same, read⟩ := ofNumber_partText width small
  refine ⟨w, same, ?_⟩
  cases lookup with
  | year | month | day => rw [parse, required_bind filled, read]
  | equals | contains | startsWith | endsWith | oneOf | onDate | dateRange | isNull | isNotNull
  | isTrue | isFalse | less | greater | atMost | atLeast => cases part

end Operand

/-! ## What a record with a date satisfies -/

theorem Date.compare_accepted (a d : Date) :
    Lookup.less.accepts (compare d a) = decide (d < a) ∧
      Lookup.atMost.accepts (compare d a) = decide (d ≤ a) ∧
      Lookup.greater.accepts (compare d a) = decide (a < d) ∧
      Lookup.atLeast.accepts (compare d a) = decide (a ≤ d) := by
  refine ⟨?_, ?_, ?_, ?_⟩ <;> rw [Bool.eq_iff_iff] <;>
    simp [Lookup.accepts, compare_eq_lt_iff, compare_eq_gt_iff, not_lt_iff]

section Held

variable {json : Json} {lookup : Lookup} {a b d : Date}

theorem Json.compareWith_date (held : json.toDate? = some d) (a : Date) :
    json.compareWith (.date a) = some (Date.compare d a) := by
  simp only [compareWith, asKindOf, held, Option.map_some, Option.bind_some, Value.compare]

theorem Json.isWithin_dates (held : json.toDate? = some d) (a b : Date) :
    json.isWithin (.date a) (.date b) = decide (a ≤ d ∧ d ≤ b) := by
  rw [isWithin, compareWith_date held, compareWith_date held, Bool.eq_iff_iff]
  simp [Date.compare_eq_lt_iff, Date.compare_eq_gt_iff, Date.not_lt_iff]

namespace Lookup

theorem holdsOf_equals (held : json.toDate? = some d) (a : Date) :
    equals.holdsOf json (.date a) = decide (d = a) := by
  change json.equals _ = _
  rw [Json.equals, Json.compareWith_date held, Bool.eq_iff_iff]
  simp [Date.compare_eq_eq_iff]

theorem holdsOf_onDate (held : json.toDate? = some d) (a : Date) :
    onDate.holdsOf json (.date a) = decide (d = a) := by
  rw [holdsOf, held, Bool.eq_iff_iff]
  simp [Value.equal, Value.compare, Date.compare_eq_eq_iff]

theorem holdsOf_ordering (ordering : lookup.isOrdering) (held : json.toDate? = some d)
    (a : Date) : lookup.holdsOf json (.date a) = lookup.accepts (Date.compare d a) := by
  cases lookup with
  | less | greater | atMost | atLeast => rw [holdsOf, Json.compareWith_date held]
  | equals | contains | startsWith | endsWith | oneOf | onDate | dateRange | year | month | day
  | isNull | isNotNull | isTrue | isFalse => cases ordering

theorem datePart_bounds (lookup : Lookup) (four : d.InFourDigits) :
    0 ≤ lookup.datePart d ∧ lookup.datePart d ≤ 9999 := by
  have ⟨first, last⟩ := four
  have month := Date.month_lt d.isDay
  have day := Date.day_lt d.isDay
  cases lookup <;> simp only [datePart] <;> omega

theorem holdsOf_part (part : lookup.isDatePart) (four : d.InFourDigits)
    (held : json.toDate? = some d) (w : Int64) :
    lookup.holdsOf json (.integer w) = decide (lookup.datePart d = w.toInt) := by
  have ⟨first, last⟩ := lookup.datePart_bounds four
  have fits : (Int64.ofInt (lookup.datePart d)).toInt = lookup.datePart d :=
    Int64.toInt_ofInt_of_le (by omega) (by omega)
  have same : Int64.ofInt (lookup.datePart d) = w ↔ lookup.datePart d = w.toInt := by
    rw [← Int64.toInt_inj, fits]
  have equal : (Value.integer (Int64.ofInt (lookup.datePart d))).equal (.integer w) =
      decide (lookup.datePart d = w.toInt) := by
    rw [Bool.eq_iff_iff]
    simp [Value.equal, Value.compare, same]
  cases lookup with
  | year | month | day =>
    rw [holdsOf, held]
    exact equal
  | equals | contains | startsWith | endsWith | oneOf | onDate | dateRange | isNull | isNotNull
  | isTrue | isFalse | less | greater | atMost | atLeast => cases part

end Lookup

end Held

/-! ## Answers about a date -/

namespace Json

theorem toDate?_of_writtenAs {d : Date} (four : d.InFourDigits) {cs : List Char}
    (written : d.WrittenAs cs) : (string (String.ofList cs)).toDate? = some d := by
  rw [toDate?, String.toList_ofList]
  exact Date.ofRecord?_of_writtenAs four written

section Record

variable {record : Json} {json : Json} {field : String} {lookup : Lookup} {a b d : Date}

theorem answer_ordering (ordering : lookup.isOrdering) (named : Field.namesDate field)
    (four : a.InFourDigits) (held : json.toDate? = some d)
    (reached : record.resolve field = [json]) :
    record.answer field lookup a.slashedText = .ok (lookup.accepts (Date.compare d a)) := by
  rw [answer_single (Lookup.no_null_check_of_isOrdering ordering)
    (Operand.parse_ordering ordering named four) reached, Lookup.holdsOf_ordering ordering held]

theorem answer_part (part : lookup.isDatePart) (width : Nat) {n : Nat} (small : n < 10000)
    (four : d.InFourDigits) (held : json.toDate? = some d)
    (reached : record.resolve field = [json]) :
    record.answer field lookup (Operand.partText width n) =
      .ok (decide (lookup.datePart d = n)) := by
  have noNullCheck : lookup ≠ .isNull ∧ lookup ≠ .isNotNull := by
    constructor <;> rintro rfl <;> cases part
  obtain ⟨w, same, parsed⟩ := Operand.parse_part part width small
  rw [answer_single noNullCheck parsed reached, Lookup.holdsOf_part part four held, same]

/-- Whether the record satisfies the lookups for the year, the month and the day of a date, each
written in decimal digits. -/
def answerParts (record : Json) (field : String) (widths : Nat × Nat × Nat) (a : Date) :
    Except TermError Bool := do
  let year ← record.answer field .year (Operand.partText widths.1 a.year.natAbs)
  let month ← record.answer field .month (Operand.partText widths.2.1 a.month)
  let day ← record.answer field .day (Operand.partText widths.2.2 a.day)
  return year && month && day

theorem answerParts_eq (widths : Nat × Nat × Nat) (four : a.InFourDigits) (four' : d.InFourDigits)
    (held : json.toDate? = some d) (reached : record.resolve field = [json]) :
    record.answerParts field widths a = .ok (decide (d = a)) := by
  have ⟨first, last⟩ := four
  have smallYear : a.year.natAbs < 10000 := by omega
  have smallMonth : a.month < 10000 := (Date.month_lt a.isDay).trans (by decide)
  have smallDay : a.day < 10000 := (Date.day_lt a.isDay).trans (by decide)
  have yearPart : Lookup.year.isDatePart := rfl
  have monthPart : Lookup.month.isDatePart := rfl
  have dayPart : Lookup.day.isDatePart := rfl
  rw [answerParts, answer_part yearPart widths.1 smallYear four' held reached,
    answer_part monthPart widths.2.1 smallMonth four' held reached,
    answer_part dayPart widths.2.2 smallDay four' held reached]
  change Except.ok _ = _
  congr 1
  rw [Bool.eq_iff_iff]
  simp only [Bool.and_eq_true, decide_eq_true_eq, Date.eq_iff_parts]
  -- the year is written without its sign, and has none
  simp only [Lookup.datePart]
  omega

/-- A record with one date in a field with `date` in its name, in any letter case, answers for the
date: equality and the orderings are those of the calendar, a range has its ends in it, and the
three parts make up the date. -/
theorem date_answers (named : ['d', 'a', 't', 'e'] <:+: field.toList.map Char.toLower)
    (aFour : a.InFourDigits) (bFour : b.InFourDigits) (dFour : d.InFourDigits) {cs : List Char}
    (written : d.WrittenAs cs) (reached : record.resolve field = [string (String.ofList cs)])
    {blanks : List Char} (blank : ∀ c ∈ blanks, Text.isBlank c) (widths : Nat × Nat × Nat) :
    record.answer field .equals a.slashedText = .ok (decide (d = a)) ∧
      record.answer field .onDate a.slashedText = .ok (decide (d = a)) ∧
      record.answer field .less a.slashedText = .ok (decide (d < a)) ∧
      record.answer field .atMost a.slashedText = .ok (decide (d ≤ a)) ∧
      record.answer field .greater a.slashedText = .ok (decide (a < d)) ∧
      record.answer field .atLeast a.slashedText = .ok (decide (a ≤ d)) ∧
      record.answer field .dateRange (Operand.rangeText a b blanks) =
        .ok (decide (a ≤ d ∧ d ≤ b)) ∧
      record.answerParts field widths a = .ok (decide (d = a)) := by
  have held := toDate?_of_writtenAs dFour written
  have names := Field.namesDate_of_infix named
  obtain ⟨less, atMost, greater, atLeast⟩ := Date.compare_accepted a d
  refine ⟨?_, ?_, ?_, ?_, ?_, ?_, ?_, answerParts_eq widths aFour dFour held reached⟩
  · rw [answer_single (by decide) (Operand.parse_equals names aFour) reached,
      Lookup.holdsOf_equals held]
  · rw [answer_single (by decide) (Operand.parse_onDate aFour) reached,
      Lookup.holdsOf_onDate held]
  · rw [answer_ordering rfl names aFour held reached, less]
  · rw [answer_ordering rfl names aFour held reached, atMost]
  · rw [answer_ordering rfl names aFour held reached, greater]
  · rw [answer_ordering rfl names aFour held reached, atLeast]
  · rw [answer_of_parse (Operand.parse_dateRange aFour bFour blank), reached]
    simp [Operand.holdsOf, isWithin_dates held]

end Record

def invoice : Json := .object [("due_date", .string "2024-03-10T08:00:00+02:00")]

def tenthOfMarch : Date := ⟨2024, 3, 10, by decide⟩

def firstOfApril : Date := ⟨2024, 4, 1, by decide⟩

theorem date_answers_invoice :
    ['d', 'a', 't', 'e'] <:+: "due_date".toList.map Char.toLower ∧
      tenthOfMarch.InFourDigits ∧ firstOfApril.InFourDigits ∧
      tenthOfMarch.WrittenAs "2024-03-10T08:00:00+02:00".toList ∧
      invoice.resolve "due_date" = [string (String.ofList "2024-03-10T08:00:00+02:00".toList)] ∧
      (∀ c ∈ [' '], Text.isBlank c) ∧
      invoice.answer "due_date" .equals "10/03/2024" = .ok true ∧
      invoice.answer "due_date" .less "10/03/2024" = .ok false ∧
      invoice.answer "due_date" .atMost "10/03/2024" = .ok true ∧
      invoice.answer "due_date" .dateRange "10/03/2024, 01/04/2024" = .ok true ∧
      invoice.answerParts "due_date" (0, 0, 2) tenthOfMarch = .ok true := by
  have named : ['d', 'a', 't', 'e'] <:+: "due_date".toList.map Char.toLower :=
    ⟨['d', 'u', 'e', '_'], [], by decide⟩
  have march : tenthOfMarch.InFourDigits := ⟨by decide, by decide⟩
  have april : firstOfApril.InFourDigits := ⟨by decide, by decide⟩
  have written : tenthOfMarch.WrittenAs "2024-03-10T08:00:00+02:00".toList :=
    .hyphens "T08:00:00+02:00".toList
  have reached : invoice.resolve "due_date" =
      [string (String.ofList "2024-03-10T08:00:00+02:00".toList)] := rfl
  have blank : ∀ c ∈ [' '], Text.isBlank c := List.forall_mem_singleton.mpr rfl
  obtain ⟨equals, -, less, atMost, -, -, range, parts⟩ :=
    date_answers named march april march written reached blank (0, 0, 2)
  exact ⟨named, march, april, written, reached, blank, equals, less, atMost, range, parts⟩

end Json
end SavedFilter
