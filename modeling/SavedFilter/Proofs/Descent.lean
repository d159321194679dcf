/-! # Recursive descent

A reader gives what it read from the front of a list and the rest of the list. One that goes on
with the rest ends because the rest is no longer than the list was: `within` checks that and keeps
it with the rest. Readers that call each other on one list end by a multiple of its length plus a
level for each. A list with separators is read item by item, `list?_intercalate`. -/
set_option autoImplicit false
namespace SavedFilter.Descent

variable {α β τ : Type}

/-- What was read, with at most `size` elements left. -/
structure Shorter (α τ : Type) (size : Nat) where
  value : α
  rest : List τ
  bound : rest.length ≤ size

def within (size : Nat) (result : Option (α × List τ)) : Option (Shorter α τ size) :=
  result.bind fun p => if h : p.2.length ≤ size then some ⟨p.1, p.2, h⟩ else none

theorem within_some {size : Nat} {a : α} {rest : List τ} (h : rest.length ≤ size) :
    within size (some (a, rest)) = some ⟨a, rest, h⟩ := dif_pos h

/-- One item or more, with separators between them. -/
def list? [DecidableEq τ] (separator : τ) (item? : List τ → Option (α × List τ)) (ts : List τ) :
    Option (List α × List τ) := do
  let ⟨a, rest, shorter⟩ ← within ts.length (item? ts)
  match rest, shorter with
  | [], _ => return ([a], [])
  | t :: rest, _ =>
    if t = separator then do
      let (others, rest) ← list? separator item? rest
      return (a :: others, rest)
    else return ([a], t :: rest)
termination_by ts.length

/-- Items are read back where each is read in front of a separator and in front of the rest. -/
theorem list?_intercalate [DecidableEq τ] {separator : τ} {item? : List τ → Option (α × List τ)}
    {value : β → α} {text : β → List τ} {xs : List β} {rest : List τ}
    (each : ∀ x ∈ xs, item? (text x ++ rest) = some (value x, rest) ∧
      ∀ ts, item? (text x ++ separator :: ts) = some (value x, separator :: ts))
    (someItem : xs ≠ []) (noSeparator : rest.head? ≠ some separator) :
    list? separator item? ([separator].intercalate (xs.map text) ++ rest) =
      some (xs.map value, rest) := by
  induction xs with
  | nil => exact absurd rfl someItem
  | cons x xs ih =>
    obtain ⟨last, notLast⟩ := each x (List.mem_cons_self ..)
    cases xs with
    | nil =>
      rw [List.map_singleton, List.intercalate_singleton, list?, last, within_some (by simp)]
      cases rest with
      | nil => rfl
      | cons t rest =>
        have other : t ≠ separator := fun same => noSeparator (congrArg some same)
        simp [other]
    | cons next xs =>
      have others := ih (fun y member => each y (List.mem_cons_of_mem _ member)) (by simp)
      rw [List.map_cons] at others
      rw [List.map_cons, List.map_cons, List.intercalate_cons_cons, List.append_assoc,
        List.append_assoc, List.singleton_append, list?, notLast, within_some (by simp)]
      simp [others]

end SavedFilter.Descent
