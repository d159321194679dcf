import SavedFilter.Field
import SavedFilter.Lookup
import SavedFilter.Value

/-! # Operands

The value of a term is a text until the lookup and the field decide how it is read: as a date, a
range of two dates, a list, a whole number, a decimal number, or as the text that it is. A value
that does not suit its lookup is one of the errors that a term can have. -/
set_option autoImplicit false
namespace SavedFilter

inductive TermError where
  | noField
  | noLookup
  | noValue (lookup : Lookup)
  | badDate (text : String)
  | badDateRange (text : String)
  | badNumber (text : String)
  | unknownField (model field : String)
deriving DecidableEq

def TermError.message : TermError → String
  | noField => "term has no field"
  | noLookup => "term has no lookup"
  | noValue lookup => "missing value for lookup '" ++ lookup.code ++ "'"
  | badDate text => "invalid date '" ++ text ++ "': should be \"DD/MM/YYYY\""
  | badDateRange text =>
    "invalid date range '" ++ text ++ "': should be \"DD/MM/YYYY, DD/MM/YYYY\""
  | badNumber text => "invalid number '" ++ text ++ "'"
  | unknownField model field => "unknown field '" ++ field ++ "' for model '" ++ model ++ "'"

inductive Operand where
  | scalar (v : Value)
  | range (first last : Value)
  | list (vs : List Value)
deriving DecidableEq

namespace Operand

def date? (text : String) : Option Date := Date.ofDayMonthYear? (Text.trim text.toList)

def dates? (text : String) : Option (Date × Date) :=
  match text.toList.splitOn ',' with
  | [first, last] => do
    let first ← date? (String.ofList first)
    let last ← date? (String.ofList last)
    return (first, last)
  | _ => none

def items (text : String) : List String :=
  (Text.trimmedParts ',' text.toList).map String.ofList

def required (lookup : Lookup) (raw : Option String) : Except TermError String :=
  match raw with
  | none => .error (.noValue lookup)
  | some text => if Text.isBlankText text then .error (.noValue lookup) else .ok text

def ofDate (text : String) : Except TermError Operand :=
  match date? text with
  | some d => .ok (.scalar (.date d))
  | none => .error (.badDate text)

def ofDates (text : String) : Except TermError Operand :=
  match dates? text with
  | some (first, last) => .ok (.range (.date first) (.date last))
  | none => .error (.badDateRange text)

def ofNumber (text : String) : Except TermError Operand :=
  match (integer? (Text.trim text.toList)).bind int64? with
  | some n => .ok (.scalar (.integer n))
  | none => .error (.badNumber text)

def ofItems (lookup : Lookup) (text : String) : Except TermError Operand :=
  match items text with
  | [] => .error (.noValue lookup)
  | vs => .ok (.list (vs.map .string))

/-- The number that a text is, or else the text. -/
def orderable (text : String) : Value :=
  match Decimal.ofText? (Text.trim text.toList) with
  | some d => .decimal d
  | none => .string text

/-- Reads the value of a term for a lookup on a field. Null and truth checks ignore the value. On
a field that holds dates, equality and the orderings take dates; elsewhere the orderings take
a number, or any other text as it is. -/
def parse (field : String) (lookup : Lookup) (raw : Option String) :
    Except TermError Operand :=
  match lookup with
  | .isNull | .isTrue => .ok (.scalar (.boolean true))
  | .isNotNull | .isFalse => .ok (.scalar (.boolean false))
  | .oneOf => do ofItems lookup (← required lookup raw)
  | .dateRange => do ofDates (← required lookup raw)
  | .onDate => do ofDate (← required lookup raw)
  | .year | .month | .day => do ofNumber (← required lookup raw)
  | .less | .greater | .atMost | .atLeast => do
    let text ← required lookup raw
    if Field.namesDate field then ofDate text else return .scalar (orderable text)
  | .equals => do
    let text ← required lookup raw
    if Field.namesDate field then ofDate text else return .scalar (.string text)
  | .contains | .startsWith | .endsWith => do
    return .scalar (.string (← required lookup raw))

def scalar? : Operand → Option Value
  | scalar v => some v
  | _ => none

def values : Operand → List Value
  | scalar v => [v]
  | range first last => [first, last]
  | list vs => vs

def display : Operand → String
  | scalar v => v.display
  | o => "[" ++ ", ".intercalate (o.values.map Value.display) ++ "]"

end Operand
end SavedFilter
