import SavedFilter.Text.Blank
import SavedFilter.Text.Case

/-! # Term operators

The operator of a term says whether the term is a condition, perhaps negated, or one of the
marks that combine conditions: the two connectives and the two parentheses. -/
set_option autoImplicit false
namespace SavedFilter

inductive Operator where
  | plain
  | not
  | and
  | or
  | opening
  | closing
deriving DecidableEq

inductive NameError where
  | operator (text : String)
  | lookup (text : String)
deriving DecidableEq

def NameError.message : NameError → String
  | operator text => "unknown operator '" ++ text ++ "'"
  | lookup text => "unknown lookup '" ++ text ++ "'"

namespace Operator

def all : List Operator := [plain, not, and, or, opening, closing]

def isAtomic : Operator → Bool
  | plain | not => true
  | _ => false

def code : Operator → Char
  | plain => '-'
  | not => '!'
  | and => '&'
  | or => '|'
  | opening => '('
  | closing => ')'

def label : Operator → String
  | plain => "-"
  | not => "NOT"
  | and => "AND"
  | or => "OR"
  | opening => "("
  | closing => ")"

def name : Operator → String
  | plain => "none"
  | not => "not"
  | and => "and"
  | or => "or"
  | opening => "open"
  | closing => "close"

def ofName? (text : String) : Option Operator :=
  all.find? fun o => o.name == text || String.singleton o.code == text

/-- Reads a name or code in any letter case, with blanks around it. -/
def ofText (text : String) : Except NameError Operator :=
  let lowered := Text.lowerText (String.ofList (Text.trim text.toList))
  match ofName? lowered with
  | some o => .ok o
  | none => .error (.operator lowered)

theorem mem_all (o : Operator) : o ∈ all := by
  cases o <;> simp [all]

theorem ofName?_name (o : Operator) : ofName? o.name = some o := by
  cases o <;> decide +kernel

end Operator
end SavedFilter
