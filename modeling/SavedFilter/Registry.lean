import SavedFilter.Compile.Builder
import SavedFilter.Schema

/-! # Model registries

The models that can be filtered, in the order in which they were registered. Qualified names are
matched without regard to letter case, and a name can be registered once. -/
set_option autoImplicit false
namespace SavedFilter

inductive PlanError where
  | unknownModel (name : String)
  | duplicateModel (name : String)
  | missingRelation (model path : String)
  | badRegistry
  | compile (cause : CompileError)
deriving DecidableEq

/-- The message of an error. What is wrong with the text of a registry is not told. -/
def PlanError.message : PlanError → String
  | unknownModel name => "model '" ++ name ++ "' is not registered for dynamic filtering"
  | duplicateModel name => "model '" ++ name ++ "' is registered twice"
  | missingRelation model path =>
    "field '" ++ path ++ "' of model '" ++ model ++ "' needs a relation that is not declared"
  | badRegistry => "invalid model registry"
  | compile cause => cause.message

def Schema.key (s : Schema) : String := Text.lowerText s.qualifiedName

structure Registry where
  models : List Schema := []

namespace Registry

def empty : Registry := {}

def size (r : Registry) : Nat := r.models.length

def find? (r : Registry) (name : String) : Option Schema :=
  r.models.find? (·.key == Text.lowerText name)

def has (r : Registry) (name : String) : Bool := (r.find? name).isSome

def resolve (r : Registry) (name : String) : Except PlanError Schema :=
  match r.find? name with
  | some s => .ok s
  | none => .error (.unknownModel name)

def register (r : Registry) (s : Schema) : Except PlanError Registry :=
  if r.models.any (·.key == s.key) then .error (.duplicateModel s.qualifiedName)
  else .ok { models := r.models ++ [s] }

def ofSchemas (schemas : List Schema) : Except PlanError Registry := schemas.foldlM register empty

def modelName (qualified : String) : String :=
  String.ofList ((qualified.toList.dropWhile (· != '.')).drop 1)

/-- The models that a filter may be made for, by qualified name and model name, in ascending
order. -/
def choices (r : Registry) : List (String × String) :=
  let names := (r.models.filter (!·.isProxy)).map Schema.qualifiedName
  (names.map fun q => (q, modelName q)).mergeSort fun a b => decide (a.1 ≤ b.1)

end Registry
end SavedFilter
