import SavedFilter.Operand

/-! # Conditions

The tree that a filter stands for: comparisons of fields with operands, combined by negation,
conjunction and disjunction. -/
set_option autoImplicit false
namespace SavedFilter

inductive Condition where
  | always
  | compare (field : String) (lookup : Lookup) (operand : Operand)
  | not (c : Condition)
  | and (left right : Condition)
  | or (left right : Condition)
deriving DecidableEq

namespace Condition

def addField (fields : List String) (field : String) : List String :=
  if field ∈ fields then fields else fields ++ [field]

/-- The listed fields, then those of the condition that are new, in order. -/
def fieldsFrom (fields : List String) : Condition → List String
  | always => fields
  | compare field _ _ => addField fields field
  | not c => c.fieldsFrom fields
  | and left right => right.fieldsFrom (left.fieldsFrom fields)
  | or left right => right.fieldsFrom (left.fieldsFrom fields)

def fields (c : Condition) : List String := c.fieldsFrom []

def rank : Condition → Nat
  | or _ _ => 1
  | and _ _ => 2
  | _ => 3

def displayComparison (field : String) (lookup : Lookup) (operand : Operand) : String :=
  lookup.keyPath field ++ " == " ++ operand.display

/-- Parentheses around the text of a part that binds less tightly than what it stands in. -/
def grouped (c : Condition) (outer : Nat) (shown : String) : String :=
  if c.rank < outer then "(" ++ shown ++ ")" else shown

def display : Condition → String
  | always => "TRUE"
  | compare field lookup operand => displayComparison field lookup operand
  | not c => "NOT(" ++ c.display ++ ")"
  | and left right =>
    left.grouped 2 left.display ++ " AND " ++ right.grouped 2 right.display
  | or left right =>
    left.grouped 1 left.display ++ " OR " ++ right.grouped 1 right.display

end Condition
end SavedFilter
