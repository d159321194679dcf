/-! # Sets of code points given by their boundaries

A set of code points is written as the ascending list of the places where membership changes:
the set is entered at the first boundary, left at the second, entered again at the third. So a
code point belongs to it exactly when an odd number of boundaries lie at or below it. -/
set_option autoImplicit false
namespace SavedFilter.Text

def inBounds (bounds : List Nat) (n : Nat) : Bool :=
  (bounds.takeWhile (· ≤ n)).length % 2 == 1

theorem inBounds_nil (n : Nat) : inBounds [] n = false := rfl

end SavedFilter.Text
