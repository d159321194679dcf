import SavedFilter.Compile.Builder
import SavedFilter.Condition.Basic
import SavedFilter.Schema

/-! # Building conditions

The builder whose predicates are conditions. With a schema it accepts only the fields that the
schema offers, and says so before it looks at the value of a term. -/
set_option autoImplicit false
namespace SavedFilter

def Schema.check (s : Schema) (field : String) : Except TermError Unit :=
  if s.allows field then .ok () else .error (.unknownField s.qualifiedName field)

def Condition.ofTerm (schema : Option Schema) (field : String) (lookup : Lookup)
    (value : Option String) : Except TermError Condition := do
  match schema with
  | some s => s.check field
  | none => pure ()
  let operand ← Operand.parse field lookup value
  return .compare field lookup operand

/-- Predicates as conditions, for the fields of a schema or for any fields. -/
def conditionBuilder (schema : Option Schema) : Builder Id Condition where
  compare := fun field lookup value => ExceptT.mk (Condition.ofTerm schema field lookup value)
  not := Condition.not
  join := fun c left right =>
    match c with
    | .and => .and left right
    | .or => .or left right
  always := .always

end SavedFilter
