import SavedFilter.Number.Shortest

/-! # JSON values

A value as a record holds it. Whole numbers that fit 64 bits, signed or unsigned, stay whole;
every other number is a binary64 number. The members of an object that was read are in ascending
order of their names, each name once, the last of several members of one name winning. -/
set_option autoImplicit false
namespace SavedFilter

inductive Json where
  | null
  | bool (b : Bool)
  | integer (n : Int)
  | float (x : Binary64)
  | string (s : String)
  | array (items : List Json)
  | object (members : List (String × Json))

namespace Json

/-- Puts a member in its place among members in ascending order, over one of the same name. -/
def insertMember (name : String) (value : Json) : List (String × Json) → List (String × Json)
  | [] => [(name, value)]
  | (name', value') :: rest =>
    match compare name name' with
    | .lt => (name, value) :: (name', value') :: rest
    | .eq => (name, value) :: rest
    | .gt => (name', value') :: insertMember name value rest

/-- Members in ascending order of their names, the last one of each name. -/
def sortedMembers (members : List (String × Json)) : List (String × Json) :=
  members.foldl (fun done m => insertMember m.1 m.2 done) []

def member? (name : String) : Json → Option Json
  | object members => members.lookup name
  | _ => none

/-- The text of a value that is one word: a string, a number or a truth value. -/
def word? : Json → Option String
  | string s => some s
  | integer n => some (toString n)
  | float x => some (String.ofList x.toText)
  | bool b => some (if b then "true" else "false")
  | _ => none

def isNull : Json → Bool
  | null => true
  | _ => false

mutual

def sorted : Json → Json
  | array items => array (sortedItems items)
  | object members => object (sortedMembers (sortedValues members))
  | value => value

def sortedItems : List Json → List Json
  | [] => []
  | value :: rest => sorted value :: sortedItems rest

def sortedValues : List (String × Json) → List (String × Json)
  | [] => []
  | (name, value) :: rest => (name, sorted value) :: sortedValues rest

end

end Json
end SavedFilter
