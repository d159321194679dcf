import SavedFilter.Sql.Clause

/-! # Queries

The query that lists the matches of a filter. Bare columns are qualified by the base table as soon
as another table is joined, and a condition that always holds is left out. -/
set_option autoImplicit false
namespace SavedFilter

/-- A table joined under the name of a relation. -/
structure Join where
  table : String
  /-- The name under which the table is joined. -/
  name : String
  localKey : String
  remoteKey : String
deriving DecidableEq

structure SortColumn where
  field : String
  isDescending : Bool
deriving DecidableEq

structure Query where
  table : String
  /-- The paths to list; with none, every column of the table is listed. -/
  columns : List String := []
  joins : List Join := []
  condition : Condition := .always
  orderBy : List SortColumn := []
deriving DecidableEq

def Join.sql (base : String) (j : Join) : List Fragment :=
  [.word " LEFT JOIN ", .name j.table, .word " AS ", .name j.name, .word " ON ", .name base,
    .word ".", .name j.localKey, .word " = ", .name j.name, .word ".", .name j.remoteKey]

def SortColumn.sql (base : Option String) (c : SortColumn) : List Fragment :=
  columnSql base c.field ++ [.word (if c.isDescending then " DESC" else " ASC")]

def commaSeparated (parts : List (List Fragment)) : List Fragment :=
  [Fragment.word ", "].intercalate parts

namespace Query

def base (q : Query) : Option String := if q.joins.isEmpty then none else some q.table

def listing (q : Query) : List Fragment :=
  if q.columns.isEmpty then [.name q.table, .word ".*"]
  else commaSeparated (q.columns.map (columnSql q.base))

def sql (d : Dialect) (q : Query) : List Fragment :=
  .word "SELECT " :: q.listing ++ [.word " FROM ", .name q.table] ++ q.joins.flatMap (·.sql q.table)
    ++ (if q.condition = .always then [] else .word " WHERE " :: q.condition.sql d q.base)
    ++ (if q.orderBy.isEmpty then []
        else .word " ORDER BY " :: commaSeparated (q.orderBy.map (·.sql q.base)))

def statement (d : Dialect) (q : Query) : Statement := Fragment.statement d (q.sql d)

end Query
end SavedFilter
