/-! # SQL dialects

What the two supported databases write differently: how identifiers are quoted, how parameters are
marked, and how dates are taken apart. -/
set_option autoImplicit false
namespace SavedFilter

inductive Dialect where
  | postgres
  | mysql
deriving DecidableEq

namespace Dialect

def name : Dialect → String
  | postgres => "PostgreSQL"
  | mysql => "MySQL"

def ofCode? : String → Option Dialect
  | "postgres" => some postgres
  | "mysql" => some mysql
  | _ => none

def quoteChar : Dialect → Char
  | postgres => '\x22'
  | mysql => '\x60'

/-- An identifier between quotes, each quote inside it written twice. -/
def quote (d : Dialect) (identifier : List Char) : List Char :=
  d.quoteChar ::
    identifier.flatMap (fun c => if c = d.quoteChar then [c, c] else [c]) ++ [d.quoteChar]

def placeholder (d : Dialect) (index : Nat) : List Char :=
  match d with
  | postgres => '$' :: Nat.toDigits 10 (index + 1)
  | mysql => ['?']

def likeOperator : Dialect → String
  | postgres => "ILIKE"
  | mysql => "LIKE"

/-- What stands in front of an expression to take a part of its date; a parenthesis follows
the expression. -/
def datePartOpening (d : Dialect) (part : String) : String :=
  match d with
  | postgres => "EXTRACT(" ++ part ++ " FROM "
  | mysql => part ++ "("

def dateOpening : Dialect → String
  | postgres => "CAST("
  | mysql => "DATE("

def dateClosing : Dialect → String
  | postgres => " AS DATE)"
  | mysql => ")"

end Dialect
end SavedFilter
