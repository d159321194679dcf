import SavedFilter.Operand

/-! # Terms

One element of a filter in the order that its user gave it: a condition over alternative fields,
or a mark that combines conditions. A term may be incomplete, carry parts that it has no use
for, or be marked as deleted; `cleaned` drops the parts without use. -/
set_option autoImplicit false
namespace SavedFilter

structure Term where
  operator : Operator := .plain
  /-- Alternative field paths; one that matches is enough. -/
  fields : List String := []
  lookup : Option Lookup := none
  value : Option String := none
  order : UInt32 := 0
  deleted : Bool := false
deriving DecidableEq

namespace Term

/-- A condition over the alternative paths of a text with bars. -/
def atomic (fields : String) (lookup : Lookup) (value : Option String) : Term :=
  { fields := Field.alternatives fields, lookup := some lookup, value := value }

def negated (fields : String) (lookup : Lookup) (value : Option String) : Term :=
  { atomic fields lookup value with operator := .not }

def control (operator : Operator) : Term := { operator := operator }

def withOrder (t : Term) (order : UInt32) : Term := { t with order := order }

def markDeleted (t : Term) : Term := { t with deleted := true }

def isAtomic (t : Term) : Bool := t.operator.isAtomic

def isLive (t : Term) : Bool := !t.deleted

def fieldPath (t : Term) : String := Field.joined t.fields

def lacksValue (t : Term) : Bool :=
  match t.value with
  | none => true
  | some text => Text.isBlankText text

def cleaned (t : Term) : Term :=
  if !t.isAtomic then { t with fields := [], lookup := none, value := none }
  else
    match t.lookup with
    | some lookup => if lookup.takesValue then t else { t with value := none }
    | none => t

/-- One alternative as it is shown: its key, and the operand or else the bare value. -/
def displayField (t : Term) (lookup : Lookup) (field : String) : String :=
  let value :=
    match Operand.parse field lookup t.value with
    | .ok operand => operand.display
    | .error _ => t.value.getD "?"
  lookup.keyPath field ++ " == " ++ value

def display (t : Term) : String :=
  if !t.isAtomic then t.operator.label
  else
    match t.lookup with
    | none => t.fieldPath ++ " ?"
    | some lookup =>
      let alternatives := " OR ".intercalate (t.fields.map (t.displayField lookup))
      if t.operator = .not then "NOT(" ++ alternatives ++ ")" else alternatives

end Term
end SavedFilter
