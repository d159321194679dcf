import SavedFilter.Compile.Builder

/-! # Traces

A builder that keeps a record of every operation it was asked for. Its predicates are the
indices of the records, so a trace shows which predicate went where. -/
set_option autoImplicit false
namespace SavedFilter

inductive Call where
  | compare (field : String) (lookup : Lookup) (value : Option String)
  | not (p : Nat)
  | join (c : Connective) (left right : Nat)
  | always
deriving DecidableEq

abbrev Tracing := StateM (List Call)

def Tracing.record (call : Call) : Tracing Nat :=
  fun calls => (calls.length, calls ++ [call])

/-- Predicates as indices of records. A comparison is recorded before it is checked. -/
def tracingBuilder (check : String → Lookup → Option String → Except TermError Unit) :
    Builder Tracing Nat where
  compare := fun field lookup value => do
    let p ← (Tracing.record (.compare field lookup value) : Tracing Nat)
    match check field lookup value with
    | .ok () => return p
    | .error cause => throw cause
  not := fun p => Tracing.record (.not p)
  join := fun c left right => Tracing.record (.join c left right)
  always := Tracing.record .always

end SavedFilter
