import SavedFilter.Sql.Dialect
import SavedFilter.Value

/-! # SQL fragments

A statement is a list of fragments: words of the language, identifiers, and parameters. Its text
quotes the identifiers and numbers the parameters from the left, so text and parameter list agree
by construction, and nothing but a word is ever written outside quotes. -/
set_option autoImplicit false
namespace SavedFilter

inductive Fragment where
  | word (s : String)
  | name (s : String)
  | param (v : Value)
deriving DecidableEq

structure Statement where
  text : String
  params : List Value
deriving DecidableEq

namespace Fragment

def textFrom (d : Dialect) (index : Nat) : List Fragment → List Char
  | [] => []
  | word s :: rest => s.toList ++ textFrom d index rest
  | name s :: rest => d.quote s.toList ++ textFrom d index rest
  | param _ :: rest => d.placeholder index ++ textFrom d (index + 1) rest

def param? : Fragment → Option Value
  | param v => some v
  | _ => none

def params (fs : List Fragment) : List Value := fs.filterMap param?

def statement (d : Dialect) (fs : List Fragment) : Statement :=
  ⟨String.ofList (textFrom d 0 fs), params fs⟩

end Fragment
end SavedFilter
