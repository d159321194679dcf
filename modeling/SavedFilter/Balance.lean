import SavedFilter.Term

/-! # Parentheses

The parentheses of a filter are checked before anything else is looked at. Deleted terms are
passed over, but they count for the positions. -/
set_option autoImplicit false
namespace SavedFilter

inductive StructureError where
  | unmatchedClosing (position : Nat)
  | unclosedOpening (depth : Nat)
deriving DecidableEq

def StructureError.message : StructureError → String
  | unmatchedClosing position =>
    "missing opening parenthesis for ')' at term #" ++ toString (position + 1)
  | unclosedOpening depth =>
    "missing closing parenthesis (" ++ toString depth ++ " left open)"

namespace Balance

def checkFrom (depth position : Nat) : List Term → Except StructureError Unit
  | [] => if depth = 0 then .ok () else .error (.unclosedOpening depth)
  | t :: rest =>
    if t.deleted then checkFrom depth (position + 1) rest
    else
      match t.operator with
      | .opening => checkFrom (depth + 1) (position + 1) rest
      | .closing =>
        match depth with
        | 0 => .error (.unmatchedClosing position)
        | depth + 1 => checkFrom depth (position + 1) rest
      | _ => checkFrom depth (position + 1) rest

def check (terms : List Term) : Except StructureError Unit := checkFrom 0 0 terms

end Balance
end SavedFilter
