import SavedFilter.Filter

/-! # Issues of terms

What is wrong with a term as its editing form shows it: at most one issue for each of the three
slots of the form. The positions of issues count the terms that are not deleted. -/
set_option autoImplicit false
namespace SavedFilter

inductive Slot where
  | field
  | lookup
  | value
deriving DecidableEq

def Slot.name : Slot → String
  | field => "field"
  | lookup => "lookup"
  | value => "value"

inductive Issue where
  | noField
  | noLookup
  | noValue
  | rejected (cause : TermError)
deriving DecidableEq

def TermError.hint : TermError → String
  | badDate _ => "Should be \"DD/MM/YYYY\""
  | badDateRange _ => "Should be \"DD/MM/YYYY, DD/MM/YYYY\""
  | badNumber _ => "Should be a number"
  | noValue _ => "Missing value"
  | noField => "Missing field"
  | noLookup => "Missing lookup"
  | unknownField _ _ => "Unknown field"

namespace Issue

def slot : Issue → Slot
  | noField => .field
  | noLookup => .lookup
  | noValue | rejected _ => .value

def message : Issue → String
  | noField | noLookup | noValue => "Missing value"
  | rejected cause => cause.hint

def display (i : Issue) : String := i.slot.name ++ ": " ++ i.message

end Issue

def Term.valueError? (t : Term) (lookup : Lookup) : Option TermError :=
  t.fields.findSome? fun field =>
    match Operand.parse field lookup t.value with
    | .ok _ => none
    | .error cause => some cause

def Term.valueIssues (t : Term) (lookup : Lookup) : List Issue :=
  match t.valueError? lookup with
  | some cause => [.rejected cause]
  | none =>
    if t.fields.isEmpty && lookup.takesValue && t.lacksValue then [.noValue] else []

def Term.issues (t : Term) : List Issue :=
  if !t.isAtomic then []
  else
    (if t.fields.isEmpty then [.noField] else []) ++
      match t.lookup with
      | none => .noLookup :: if t.lacksValue then [.noValue] else []
      | some lookup => t.valueIssues lookup

/-- An issue of the term at a position among the terms that take part. -/
structure FilterIssue where
  position : Nat
  issue : Issue
deriving DecidableEq

def FilterIssue.display (i : FilterIssue) : String :=
  "term #" ++ toString (i.position + 1) ++ ": " ++ i.issue.display

def Filter.issues (f : Filter) : List FilterIssue :=
  f.liveTerms.zipIdx.flatMap fun (t, position) => t.issues.map (⟨position, ·⟩)

end SavedFilter
