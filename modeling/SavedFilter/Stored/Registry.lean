import SavedFilter.Registry
import SavedFilter.Stored.Schema

/-! # Stored registries

A registry is stored as the list of its schemas. -/
set_option autoImplicit false
namespace SavedFilter

def Registry.ofText (s : String) : Except PlanError Registry :=
  match Source.readWhole readSchemas s with
  | some schemas => ofSchemas schemas
  | none => .error .badRegistry

end SavedFilter
