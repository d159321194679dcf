import SavedFilter.Compile.Compiler

/-! # Symbolic predicates

A builder whose predicates are texts that show how a filter was grouped. -/
set_option autoImplicit false
namespace SavedFilter

/-- A comparison as a text: null and truth checks show what they ask for. -/
def symbolicComparison (field : String) (lookup : Lookup) (value : Option String) : String :=
  let shown :=
    match lookup with
    | .isNull | .isTrue => "True"
    | .isNotNull | .isFalse => "False"
    | _ => value.getD ""
  lookup.keyPath field ++ "=" ++ shown

def symbolicBuilder : Builder Id String where
  compare := fun field lookup value => ExceptT.mk (.ok (symbolicComparison field lookup value))
  not := fun p => "not(" ++ p ++ ")"
  join := fun c left right =>
    match c with
    | .and => "and(" ++ left ++ ", " ++ right ++ ")"
    | .or => "or(" ++ left ++ ", " ++ right ++ ")"
  always := "TRUE"

def Filter.grouping (f : Filter) : Except CompileError String := symbolicBuilder.filter f

end SavedFilter
