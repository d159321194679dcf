import SavedFilter.Condition.Basic
import SavedFilter.Sql.Fragment

/-! # Conditions in SQL

Columns and conditions as fragments. A path through a relation is a column of that relation; any
other path is a bare column, or a column of the base table when one is given. Text patterns escape
the wildcards in the text of the user. -/
set_option autoImplicit false
namespace SavedFilter

def columnSql (base : Option String) (path : String) : List Fragment :=
  match Field.split? path, base with
  | some (relation, column), _ => [.name relation, .word ".", .name column]
  | none, some table => [.name table, .word ".", .name path]
  | none, none => [.name path]

/-- A text in which pattern wildcards stand for themselves. -/
def escapedPattern (cs : List Char) : List Char :=
  cs.flatMap fun c => if c = '\\' ∨ c = '%' ∨ c = '_' then ['\\', c] else [c]

namespace Lookup

def pattern (lookup : Lookup) (v : Value) : Value :=
  let escaped := escapedPattern v.text.toList
  .string <| String.ofList <|
    match lookup with
    | startsWith => escaped ++ ['%']
    | endsWith => '%' :: escaped
    | _ => '%' :: escaped ++ ['%']

def datePartName : Lookup → String
  | year => "YEAR"
  | month => "MONTH"
  | _ => "DAY"

def comparison : Lookup → String
  | less => " < "
  | greater => " > "
  | atMost => " <= "
  | atLeast => " >= "
  | _ => " = "

end Lookup

def paramList (vs : List Value) : List Fragment :=
  [Fragment.word ", "].intercalate (vs.map fun v => [.param v])

def comparisonSql (d : Dialect) (column : List Fragment) (lookup : Lookup) (operand : Operand) :
    List Fragment :=
  match lookup, operand with
  | .isNull, .scalar v | .isNotNull, .scalar v =>
    column ++ [.word (if v.toBool?.getD true then " IS NULL" else " IS NOT NULL")]
  | .contains, .scalar v | .startsWith, .scalar v | .endsWith, .scalar v =>
    column ++ [.word (" " ++ d.likeOperator ++ " "), .param (lookup.pattern v)]
  | _, .list vs => column ++ [.word " IN ("] ++ paramList vs ++ [.word ")"]
  | _, .range first last =>
    column ++ [.word " BETWEEN ", .param first, .word " AND ", .param last]
  | .year, .scalar v | .month, .scalar v | .day, .scalar v =>
    .word (d.datePartOpening lookup.datePartName) :: column ++
      [.word ")", .word " = ", .param v]
  | .onDate, .scalar v =>
    .word d.dateOpening :: column ++ [.word d.dateClosing, .word " = ", .param v]
  | _, .scalar v => column ++ [.word lookup.comparison, .param v]

def Condition.sql (d : Dialect) (base : Option String) : Condition → List Fragment
  | always => [.word "1 = 1"]
  | compare field lookup operand => comparisonSql d (columnSql base field) lookup operand
  | not c => .word "NOT (" :: c.sql d base ++ [.word ")"]
  | and left right =>
    .word "(" :: left.sql d base ++ .word " AND " :: right.sql d base ++ [.word ")"]
  | or left right =>
    .word "(" :: left.sql d base ++ .word " OR " :: right.sql d base ++ [.word ")"]

def Condition.statement (d : Dialect) (c : Condition) : Statement :=
  Fragment.statement d (c.sql d none)

end SavedFilter
