import SavedFilter.Term

/-! # Saved filters

A filter for one model: its terms, and the columns and the sort order in which the matches are
listed. Terms, columns and sort keys each carry an order number; equal numbers keep the order in
which they are stored. -/
set_option autoImplicit false
namespace SavedFilter

structure Column where
  field : String
  order : UInt32 := 0
deriving DecidableEq

/-- A sort key; a hyphen in front of the field sorts downwards. -/
structure SortKey where
  field : String
  order : UInt32 := 0
deriving DecidableEq

namespace SortKey

def isDescending (k : SortKey) : Bool := k.field.toList.head? == some '-'

def column (k : SortKey) : String := String.ofList (k.field.toList.dropWhile (· == '-'))

end SortKey

structure Filter where
  name : String := "Report"
  /-- The qualified name of the model. -/
  model : String
  owner : String := ""
  /-- Open to every user, not only to the owner. -/
  isGlobal : Bool := false
  terms : List Term := []
  columns : List Column := []
  sortKeys : List SortKey := []
deriving DecidableEq

namespace Filter

def inOrder {α : Type} (key : α → UInt32) (xs : List α) : List α :=
  xs.mergeSort fun a b => decide (key a ≤ key b)

def orderedTerms (f : Filter) : List Term := inOrder Term.order f.terms

def orderedColumns (f : Filter) : List Column := inOrder Column.order f.columns

def orderedSortKeys (f : Filter) : List SortKey := inOrder SortKey.order f.sortKeys

def liveTerms (f : Filter) : List Term := f.orderedTerms.filter Term.isLive

end Filter
end SavedFilter
