import SavedFilter.Proofs.Descent
import SavedFilter.Proofs.Sql.Lexer

/-! # Reading statements

The grammar of the statements, for both dialects, as a reader by recursive descent. `NOT` binds
more tightly than `AND`, and `AND` more tightly than `OR`; an `AND` behind `BETWEEN` belongs to the
range. A reader of a part gives what it read and the lexemes behind it, and the reader of a whole
statement leaves none. -/
set_option autoImplicit false
namespace SavedFilter.Sql

open Descent

/-! ## What is read -/

structure ColumnRef where
  table : Option String
  name : String
deriving DecidableEq

inductive Expression where
  | column (c : ColumnRef)
  | part (name : String) (c : ColumnRef)
  | date (c : ColumnRef)
deriving DecidableEq

/-- The form of a comparison, with the marks of its parameters. -/
inductive Test where
  | null
  | notNull
  | operator (symbol mark : String)
  | oneOf (marks : List String)
  | between (first last : String)
deriving DecidableEq

inductive Predicate where
  | always
  | compare (e : Expression) (t : Test)
  | not (p : Predicate)
  | and (left right : Predicate)
  | or (left right : Predicate)
deriving DecidableEq

inductive Listing where
  | every (table : String)
  | columns (cs : List ColumnRef)
deriving DecidableEq

/-- A table joined under a name, where two columns are equal. -/
structure Joined where
  table : String
  name : String
  left : ColumnRef
  right : ColumnRef
deriving DecidableEq

structure SortItem where
  column : ColumnRef
  isDescending : Bool
deriving DecidableEq

structure Selection where
  listing : Listing
  table : String
  joins : List Joined
  condition : Option Predicate
  orderBy : List SortItem
deriving DecidableEq

/-- Without a clause for it the condition is the one that always holds. -/
def Selection.predicate (s : Selection) : Predicate := s.condition.getD .always

/-! ## Readers of parts -/

def expect? (expected ts : List Lexeme) : Option (List Lexeme) :=
  if expected.isPrefixOf ts then some (ts.drop expected.length) else none

def column? : List Lexeme → Option (ColumnRef × List Lexeme)
  | .name table :: .mark '.' :: .name column :: rest => some (⟨some table, column⟩, rest)
  | .name column :: rest => some (⟨none, column⟩, rest)
  | _ => none

def parameter? : List Lexeme → Option (String × List Lexeme)
  | .placeholder mark :: rest => some (mark, rest)
  | _ => none

def expression? : List Lexeme → Option (Expression × List Lexeme)
  | .word "EXTRACT" :: .mark '(' :: .word part :: .word "FROM" :: rest => do
    let (c, rest) ← column? rest
    let rest ← expect? [.mark ')'] rest
    if part ∈ ["YEAR", "MONTH", "DAY"] then return (.part part c, rest) else none
  | .word "CAST" :: .mark '(' :: rest => do
    let (c, rest) ← column? rest
    let rest ← expect? [.word "AS", .word "DATE", .mark ')'] rest
    return (.date c, rest)
  | .word "DATE" :: .mark '(' :: rest => do
    let (c, rest) ← column? rest
    let rest ← expect? [.mark ')'] rest
    return (.date c, rest)
  | .word part :: .mark '(' :: rest => do
    let (c, rest) ← column? rest
    let rest ← expect? [.mark ')'] rest
    if part ∈ ["YEAR", "MONTH", "DAY"] then return (.part part c, rest) else none
  | ts => do
    let (c, rest) ← column? ts
    return (.column c, rest)

def test? : List Lexeme → Option (Test × List Lexeme)
  | .word "IS" :: .word "NULL" :: rest => some (.null, rest)
  | .word "IS" :: .word "NOT" :: .word "NULL" :: rest => some (.notNull, rest)
  | .word "IN" :: .mark '(' :: .mark ')' :: rest => some (.oneOf [], rest)
  | .word "IN" :: .mark '(' :: rest => do
    let (marks, rest) ← list? (.mark ',') parameter? rest
    let rest ← expect? [.mark ')'] rest
    return (.oneOf marks, rest)
  | .word "BETWEEN" :: .placeholder first :: .word "AND" :: .placeholder last :: rest =>
    some (.between first last, rest)
  | .word symbol :: .placeholder mark :: rest =>
    if symbol ∈ ["=", "<", ">", "<=", ">=", "LIKE", "ILIKE"] then
      some (.operator symbol mark, rest)
    else none
  | _ => none

def comparison? (ts : List Lexeme) : Option (Predicate × List Lexeme) := do
  let (e, rest) ← expression? ts
  let (t, rest) ← test? rest
  return (.compare e t, rest)

/-! ## Readers of conditions -/

mutual

def negation? (ts : List Lexeme) : Option (Predicate × List Lexeme) :=
  match ts with
  | .word "NOT" :: rest => do
    let (p, rest) ← negation? rest
    return (.not p, rest)
  | .mark '(' :: rest => do
    let (p, rest) ← disjunction? rest
    let rest ← expect? [.mark ')'] rest
    return (p, rest)
  | .word "1" :: .word "=" :: .word "1" :: rest => some (.always, rest)
  | ts => comparison? ts
termination_by 5 * ts.length

def conjunctionFrom? (left : Predicate) (ts : List Lexeme) : Option (Predicate × List Lexeme) :=
  match ts with
  | .word "AND" :: others => do
    let ⟨right, rest, _⟩ ← within others.length (negation? others)
    conjunctionFrom? (.and left right) rest
  | ts => some (left, ts)
termination_by 5 * ts.length + 1

def conjunction? (ts : List Lexeme) : Option (Predicate × List Lexeme) := do
  let ⟨p, rest, _⟩ ← within ts.length (negation? ts)
  conjunctionFrom? p rest
termination_by 5 * ts.length + 2

def disjunctionFrom? (left : Predicate) (ts : List Lexeme) : Option (Predicate × List Lexeme) :=
  match ts with
  | .word "OR" :: others => do
    let ⟨right, rest, _⟩ ← within others.length (conjunction? others)
    disjunctionFrom? (.or left right) rest
  | ts => some (left, ts)
termination_by 5 * ts.length + 3

def disjunction? (ts : List Lexeme) : Option (Predicate × List Lexeme) := do
  let ⟨p, rest, _⟩ ← within ts.length (conjunction? ts)
  disjunctionFrom? p rest
termination_by 5 * ts.length + 4

end

/-! ## Readers of statements -/

def listing? : List Lexeme → Option (Listing × List Lexeme)
  | .name table :: .mark '.' :: .mark '*' :: rest => some (.every table, rest)
  | ts => do
    let (cs, rest) ← list? (.mark ',') column? ts
    return (.columns cs, rest)

def joins? (ts : List Lexeme) : Option (List Joined × List Lexeme) :=
  match ts with
  | .word "LEFT" :: .word "JOIN" :: .name table :: .word "AS" :: .name name :: .word "ON" ::
      others => do
    let (left, rest) ← column? others
    let rest ← expect? [.word "="] rest
    let ⟨right, rest, _⟩ ← within others.length (column? rest)
    let (joins, rest) ← joins? rest
    return (⟨table, name, left, right⟩ :: joins, rest)
  | ts => some ([], ts)
termination_by ts.length

def where? : List Lexeme → Option (Option Predicate × List Lexeme)
  | .word "WHERE" :: rest => do
    let (p, rest) ← disjunction? rest
    return (some p, rest)
  | ts => some (none, ts)

def sortItem? (ts : List Lexeme) : Option (SortItem × List Lexeme) := do
  let (c, rest) ← column? ts
  match rest with
  | .word "ASC" :: rest => some (⟨c, false⟩, rest)
  | .word "DESC" :: rest => some (⟨c, true⟩, rest)
  | _ => none

def orderBy? : List Lexeme → Option (List SortItem × List Lexeme)
  | .word "ORDER" :: .word "BY" :: rest => list? (.mark ',') sortItem? rest
  | ts => some ([], ts)

def selection? (ts : List Lexeme) : Option Selection := do
  let rest ← expect? [.word "SELECT"] ts
  let (listing, rest) ← listing? rest
  match rest with
  | .word "FROM" :: .name table :: rest => do
    let (joins, rest) ← joins? rest
    let (condition, rest) ← where? rest
    let (orderBy, rest) ← orderBy? rest
    if rest.isEmpty then return ⟨listing, table, joins, condition, orderBy⟩ else none
  | _ => none

end SavedFilter.Sql
