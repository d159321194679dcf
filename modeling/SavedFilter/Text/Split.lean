import SavedFilter.Text.Blank

/-! # Splitting at separators

Texts are cut at a single character with `List.splitOn`; the functions here cut at a doubled
character, either at every occurrence from the left or at the last one only, and list the
trimmed parts of a text that are not blank. -/
set_option autoImplicit false
namespace SavedFilter.Text

/-- The parts between the occurrences of `d` twice in a row, taken from the left without
overlap. -/
def splitOnDouble (d : Char) : List Char → List (List Char)
  | [] => [[]]
  | [c] => [[c]]
  | c :: c' :: rest =>
    if c = d ∧ c' = d then [] :: splitOnDouble d rest
    else
      match splitOnDouble d (c' :: rest) with
      | [] => [[c]]
      | part :: parts => (c :: part) :: parts

/-- What stands before and after the last place where `d` occurs twice in a row. -/
def splitAtLastDouble? (d : Char) : List Char → Option (List Char × List Char)
  | [] => none
  | c :: rest =>
    match splitAtLastDouble? d rest with
    | some (before, after) => some (c :: before, after)
    | none =>
      match rest with
      | [] => none
      | c' :: after => if c = d ∧ c' = d then some ([], after) else none

def trimmedParts (sep : Char) (cs : List Char) : List (List Char) :=
  ((cs.splitOn sep).map trim).filter (!·.isEmpty)

def doubled (d : Char) (cs : List Char) : List Char :=
  cs.flatMap fun c => if c = d then [d, d] else [c]

def contains (needle : List Char) : List Char → Bool
  | [] => needle.isEmpty
  | c :: rest => needle.isPrefixOf (c :: rest) || contains needle rest

theorem splitOnDouble_ne_nil (d : Char) (cs : List Char) : splitOnDouble d cs ≠ [] := by
  fun_induction splitOnDouble d cs <;> simp_all

theorem contains_iff_infix (needle cs : List Char) :
    contains needle cs = true ↔ needle <:+: cs := by
  induction cs with
  | nil => simp [contains]
  | cons c rest ih => simp [contains, ih, List.infix_cons_iff]

end SavedFilter.Text
