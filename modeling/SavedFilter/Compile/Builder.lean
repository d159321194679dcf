import SavedFilter.Balance

/-! # Predicate builders

What a filter is compiled to is not fixed: a builder supplies the predicates and the ways to
combine them. Compilation only passes predicates on. The operations of a builder may have
effects, such as keeping a record, and a comparison may fail. -/
set_option autoImplicit false
namespace SavedFilter

inductive Connective where
  | and
  | or
deriving DecidableEq

/-- A supply of predicates `π` with effects `m`. -/
structure Builder (m : Type → Type) (π : Type) where
  /-- The comparison of a field with the value of a term. -/
  compare : String → Lookup → Option String → ExceptT TermError m π
  not : π → m π
  join : Connective → π → π → m π
  /-- The predicate that holds of every record. -/
  always : m π

/-- The stack of predicates was not as it should be. Only token sequences out of normal form
lead here. -/
inductive StackFault where
  | empty
  | surplus (count : Nat)
  | missingOperand (c : Connective)
deriving DecidableEq

inductive CompileError where
  | structural (cause : StructureError)
  | term (position : Nat) (cause : TermError)
  | stack (fault : StackFault)
deriving DecidableEq

def Connective.label : Connective → String
  | and => "AND"
  | or => "OR"

def StackFault.message : StackFault → String
  | empty => "no operand left after evaluation"
  | surplus count => toString count ++ " operands left after evaluation, expected 1"
  | missingOperand c => "operator " ++ c.label ++ " is missing an operand"

def CompileError.message : CompileError → String
  | structural cause => "malformed filter expression: " ++ cause.message
  | term position cause =>
    "term #" ++ toString (position + 1) ++ " cannot be compiled: " ++ cause.message
  | stack fault => "internal invariant violated: " ++ fault.message

namespace Builder

variable {m : Type → Type} [Monad m] {π : Type}

/-- The predicate of one term: any of its alternatives, from the left, and the negation of
that for a negated term. -/
def term (b : Builder m π) (t : Term) : ExceptT TermError m π :=
  match t.fields, t.lookup with
  | [], _ => throw .noField
  | _ :: _, none => throw .noLookup
  | first :: others, some lookup => do
    let p ← b.compare first lookup t.value
    let p ← others.foldlM (fun p field => do
      let q ← b.compare field lookup t.value
      b.join .or p q) p
    if t.operator = .not then b.not p else return p

end Builder
end SavedFilter
