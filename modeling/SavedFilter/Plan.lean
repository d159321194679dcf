import SavedFilter.Compile.Compiler
import SavedFilter.Condition.Build
import SavedFilter.Registry
import SavedFilter.Sql.Query

/-! # Plans

A filter resolved against the model it is for: its condition, and the query that lists the
matches. Every path through a relation, in the condition, the columns or the sort order, needs a
declared relation, and exactly the relations that are needed are joined. -/
set_option autoImplicit false
namespace SavedFilter

def Filter.condition (f : Filter) (schema : Option Schema) : Except CompileError Condition :=
  (conditionBuilder schema).filter f

structure Plan where
  name : String
  /-- The qualified name of the model. -/
  model : String
  condition : Condition
  query : Query
deriving DecidableEq

def Relation.join (r : Relation) : Join := ⟨r.table, r.name, r.localKey, r.remoteKey⟩

namespace Plan

def missing? (s : Schema) (paths : List String) : Option String :=
  paths.find? fun p => Field.isRelated p && (s.relation? p).isNone

def queryOf (s : Schema) (c : Condition) (columns : List String) (orderBy : List SortColumn) :
    Query :=
  let paths := c.fields ++ columns ++ orderBy.map SortColumn.field
  { table := s.table
    columns := columns
    joins := (s.relationsUsed paths).map Relation.join
    condition := c
    orderBy := orderBy }

def build (r : Registry) (f : Filter) : Except PlanError Plan := do
  let s ← r.resolve f.model
  let c ← (f.condition (some s)).mapError .compile
  let columns := f.orderedColumns.map Column.field
  let orderBy := f.orderedSortKeys.map fun k => ⟨k.column, k.isDescending⟩
  let query := queryOf s c columns orderBy
  match missing? s (c.fields ++ columns ++ orderBy.map SortColumn.field) with
  | some path => .error (.missingRelation s.qualifiedName path)
  | none => return ⟨f.name, s.qualifiedName, c, query⟩

end Plan
end SavedFilter
