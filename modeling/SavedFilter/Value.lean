import SavedFilter.Date.Text
import SavedFilter.Number.Decimal
import SavedFilter.Text.Case
import SavedFilter.Text.Split

/-! # Values

The values that fields are compared with. Whole and decimal numbers compare with each other as
numbers; any other two values compare when they are of one kind. -/
set_option autoImplicit false
namespace SavedFilter

inductive Value where
  | integer (n : Int64)
  | decimal (d : Decimal)
  | string (s : String)
  | boolean (b : Bool)
  | date (d : Date)
deriving DecidableEq

namespace Value

def number? : Value → Option Decimal
  | integer n => some (.ofInt n.toInt)
  | decimal d => some d
  | _ => none

/-- The number of a value that is one or whose text, less the blanks around it, is one. -/
def toDecimal? : Value → Option Decimal
  | string s => Decimal.ofText? (Text.trim s.toList)
  | v => v.number?

def text : Value → String
  | integer n => toString n.toInt
  | decimal d => toString d
  | string s => s
  | boolean b => if b then "true" else "false"
  | date d => toString d

/-- The truth value of a value: zero and one also as texts, and the words in any letter case. -/
def toBool? : Value → Option Bool
  | boolean b => some b
  | integer n => some (n != 0)
  | string s =>
    let word := Text.lowerText s
    if word = "true" ∨ word = "1" then some true
    else if word = "false" ∨ word = "0" then some false
    else none
  | decimal _ | date _ => none

/-- Compares numbers as numbers, and other values when they are of one kind. -/
def compare : Value → Value → Option Ordering
  | integer a, integer b => some (Ord.compare a b)
  | string a, string b => some (Ord.compare a b)
  | boolean a, boolean b => some (Ord.compare a b)
  | date a, date b => some (Date.compare a b)
  | a, b =>
    match a.number?, b.number? with
    | some x, some y => some (Decimal.compare x y)
    | _, _ => none

def equal (a b : Value) : Bool := a.compare b == some .eq

/-- The value as it is shown: texts and dates between single quotes, a quote in a text
written twice. -/
def display : Value → String
  | string s => "'" ++ String.ofList (Text.doubled '\x27' s.toList) ++ "'"
  | boolean b => if b then "True" else "False"
  | date d => "'" ++ toString d ++ "'"
  | v => v.text

end Value
end SavedFilter
