import SavedFilter.Operator

/-! # Lookups

A lookup is the comparison between a field and the value of a term. Null and truth checks take
no value; the parts of a date, the orderings and the text patterns form families of their own. -/
set_option autoImplicit false
namespace SavedFilter

inductive Lookup where
  | equals
  | contains
  | startsWith
  | endsWith
  | oneOf
  | onDate
  | dateRange
  | year
  | month
  | day
  | isNull
  | isNotNull
  | isTrue
  | isFalse
  | less
  | greater
  | atMost
  | atLeast
deriving DecidableEq

namespace Lookup

def all : List Lookup :=
  [equals, contains, startsWith, endsWith, oneOf, onDate, dateRange, year, month, day, isNull,
    isNotNull, isTrue, isFalse, less, greater, atMost, atLeast]

def code : Lookup → String
  | equals => "="
  | contains => "icontains"
  | startsWith => "istartswith"
  | endsWith => "iendswith"
  | oneOf => "in"
  | onDate => "date"
  | dateRange => "range"
  | year => "year"
  | month => "month"
  | day => "day"
  | isNull => "isnull"
  | isNotNull => "isnotnull"
  | isTrue => "istrue"
  | isFalse => "isfalse"
  | less => "lt"
  | greater => "gt"
  | atMost => "lte"
  | atLeast => "gte"

def label : Lookup → String
  | equals => "Equals"
  | contains => "Contains"
  | startsWith => "Starts with"
  | endsWith => "Ends with"
  | oneOf => "One of"
  | onDate => "Date"
  | dateRange => "Date Range"
  | year => "Date Year"
  | month => "Date Month"
  | day => "Date Day"
  | isNull => "Is NULL"
  | isNotNull => "Is not NULL"
  | isTrue => "Is TRUE"
  | isFalse => "Is FALSE"
  | less => "Less Than"
  | greater => "Greater Than"
  | atMost => "Less Than or Equal To"
  | atLeast => "Greater Than or Equal To"

/-- Null and truth checks ignore the value of the term. -/
def takesValue : Lookup → Bool
  | isNull | isNotNull | isTrue | isFalse => false
  | _ => true

def isDatePart : Lookup → Bool
  | year | month | day => true
  | _ => false

def isOrdering : Lookup → Bool
  | less | greater | atMost | atLeast => true
  | _ => false

/-- The key under which a field is compared: the field itself for equality and truth checks,
and otherwise the field with the lookup behind it. -/
def keyPath (field : String) : Lookup → String
  | equals | isTrue | isFalse => field
  | isNull | isNotNull => field ++ "__isnull"
  | lookup => field ++ "__" ++ lookup.code

def ofCode? (text : String) : Option Lookup := all.find? (·.code == text)

/-- Reads a code in any letter case, with blanks around it. -/
def ofText (text : String) : Except NameError Lookup :=
  match ofCode? (Text.lowerText (String.ofList (Text.trim text.toList))) with
  | some l => .ok l
  | none => .error (.lookup text)

theorem mem_all (l : Lookup) : l ∈ all := by
  cases l <;> simp [all]

theorem ofCode?_code (l : Lookup) : ofCode? l.code = some l := by
  cases l <;> decide +kernel

end Lookup
end SavedFilter
