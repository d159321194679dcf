import Mathlib.Data.List.Infix
import SavedFilter.Text.Split

/-! # Cutting at doubled characters

A cut at every doubled character takes the pairs from the left: no part has a pair in it, none but
the last ends in the character, and the parts with pairs between them are the text again. A cut at
the last pair is the only one behind which no pair starts. The two cuts meet where the run in front
of the last pair is of even length, `splitOnDouble_append`. -/
set_option autoImplicit false
namespace SavedFilter

namespace Text

variable {d : Char}

/-! ## Runs at the end -/

/-- How many `d` stand together at the end. -/
def trailing (d : Char) (cs : List Char) : Nat := (cs.reverse.takeWhile (· == d)).length

theorem trailing_le_length (cs : List Char) : trailing d cs ≤ cs.length := by
  have within := (List.takeWhile_prefix (l := cs.reverse) (· == d)).length_le
  rwa [List.length_reverse] at within

/-- A character in front belongs to the run at the end if nothing else stands behind it. -/
theorem trailing_cons (c : Char) (cs : List Char) : trailing d (c :: cs) =
    if trailing d cs = cs.length ∧ c = d then cs.length + 1 else trailing d cs := by
  rw [trailing, List.reverse_cons, List.takeWhile_append, List.length_reverse]
  change (if trailing d cs = cs.length then cs.reverse ++ [c].takeWhile (· == d)
    else cs.reverse.takeWhile (· == d)).length = _
  by_cases full : trailing d cs = cs.length
  · by_cases same : c = d
    · rw [if_pos full, if_pos ⟨full, same⟩]
      simp [same]
    · have kept : ¬ (trailing d cs = cs.length ∧ c = d) := fun both => same both.2
      rw [if_pos full, if_neg kept, full]
      simp [same]
  · have kept : ¬ (trailing d cs = cs.length ∧ c = d) := fun both => full both.1
    rw [if_neg full, if_neg kept]
    rfl

theorem trailing_concat (cs : List Char) : trailing d (cs ++ [d]) = trailing d cs + 1 := by
  simp [trailing]

theorem exists_of_trailing_odd {cs : List Char} (odd : trailing d cs % 2 = 1) :
    ∃ r, cs = r ++ [d] ∧ trailing d r % 2 = 0 := by
  obtain rfl | ⟨r, c, rfl⟩ := cs.eq_nil_or_concat
  · simp [trailing] at odd
  · rw [List.concat_eq_append] at odd ⊢
    by_cases same : c = d
    · subst same
      rw [trailing_concat] at odd
      exact ⟨r, rfl, by omega⟩
    · simp [trailing, same] at odd

theorem trailing_double (cs : List Char) :
    trailing d (d :: d :: cs) % 2 = trailing d cs % 2 := by
  have within := trailing_le_length (d := d) cs
  rw [trailing_cons, trailing_cons, List.length_cons]
  by_cases full : trailing d cs = cs.length
  · simp only [full, and_self, if_true]
    omega
  · simp only [full, false_and, if_false]
    rw [if_neg (by omega)]

theorem trailing_single {c c' : Char} {cs : List Char} (single : ¬ (c = d ∧ c' = d)) :
    trailing d (c :: c' :: cs) = trailing d (c' :: cs) := by
  rw [trailing_cons c]
  refine if_neg ?_
  rintro ⟨full, rfl⟩
  have other : c' ≠ c := fun same => single ⟨rfl, same⟩
  have within := trailing_le_length (d := c) cs
  rw [trailing_cons, if_neg fun both => other both.2, List.length_cons] at full
  omega

/-! ## The last pair -/

theorem splitAtLastDouble?_cons_eq_none {c : Char} {cs : List Char} :
    splitAtLastDouble? d (c :: cs) = none ↔
      splitAtLastDouble? d cs = none ∧ ¬ (c = d ∧ cs.head? = some d) := by
  rw [splitAtLastDouble?.eq_def]
  cases later : splitAtLastDouble? d cs with
  | some parts => simp [later]
  | none =>
    cases cs with
    | nil => simp [later]
    | cons c' after => simp [later]

theorem splitAtLastDouble?_eq_some {cs q n : List Char}
    (split : splitAtLastDouble? d cs = some (q, n)) :
    cs = q ++ d :: d :: n ∧ splitAtLastDouble? d (d :: n) = none := by
  fun_induction splitAtLastDouble? d cs generalizing q n with
  | case1 => cases split
  | case2 c rest before after later ih =>
    cases split
    obtain ⟨rfl, undoubled⟩ := ih later
    exact ⟨rfl, undoubled⟩
  | case3 => cases split
  | case4 c c' after double later _ =>
    obtain ⟨rfl, rfl⟩ := double
    cases split
    exact ⟨rfl, later⟩
  | case5 => cases split

theorem splitAtLastDouble?_append {q n : List Char}
    (undoubled : splitAtLastDouble? d (d :: n) = none) :
    splitAtLastDouble? d (q ++ d :: d :: n) = some (q, n) := by
  induction q with
  | nil =>
    rw [List.nil_append, splitAtLastDouble?, undoubled]
    simp
  | cons c q ih =>
    rw [List.cons_append, splitAtLastDouble?.eq_def]
    simp only [ih]

theorem splitAtLastDouble?_eq_none_iff {cs : List Char} :
    splitAtLastDouble? d cs = none ↔ ¬ [d, d] <:+: cs := by
  induction cs with
  | nil => simp [splitAtLastDouble?]
  | cons c cs ih =>
    have atFront : [d, d] <+: c :: cs ↔ c = d ∧ cs.head? = some d := by
      cases cs <;> simp [List.cons_prefix_cons, eq_comm]
    rw [splitAtLastDouble?_cons_eq_none, ih, List.infix_cons_iff, atFront, not_or, and_comm]

/-! ## Parts between pairs -/

theorem splitOnDouble_double (rest : List Char) :
    splitOnDouble d (d :: d :: rest) = [] :: splitOnDouble d rest := by
  rw [splitOnDouble, if_pos ⟨rfl, rfl⟩]

theorem splitOnDouble_single {c c' : Char} {rest part : List Char} {parts : List (List Char)}
    (single : ¬ (c = d ∧ c' = d)) (parted : splitOnDouble d (c' :: rest) = part :: parts) :
    splitOnDouble d (c :: c' :: rest) = (c :: part) :: parts := by
  rw [splitOnDouble, if_neg single, parted]

theorem splitOnDouble_undoubled {cs : List Char} (undoubled : splitAtLastDouble? d cs = none) :
    splitOnDouble d cs = [cs] := by
  fun_induction splitOnDouble d cs with
  | case1 | case2 => rfl
  | case3 c c' rest double ih =>
    obtain ⟨_, single⟩ := splitAtLastDouble?_cons_eq_none.mp undoubled
    exact absurd ⟨double.1, congrArg some double.2⟩ single
  | case4 c c' rest single empty ih => exact absurd empty (splitOnDouble_ne_nil d (c' :: rest))
  | case5 c c' rest single part parts parted ih =>
    have later := ih (splitAtLastDouble?_cons_eq_none.mp undoubled).1
    rw [parted] at later
    cases later
    rfl

/-- Pairs taken from the left end where `q` does, if the run at its end is of even length. -/
theorem splitOnDouble_append {q m : List Char} (even : trailing d q % 2 = 0)
    (undoubled : splitAtLastDouble? d m = none) :
    splitOnDouble d (q ++ d :: d :: m) = splitOnDouble d q ++ [m] := by
  have behind : splitOnDouble d (d :: d :: m) = [[], m] := by
    rw [splitOnDouble_double, splitOnDouble_undoubled undoubled]
  -- Pairs are taken off the front of `q`, which leaves the run at its end as even as it was.
  fun_induction splitOnDouble d q with
  | case1 => exact behind
  | case2 c =>
    have other : c ≠ d := by
      rintro rfl
      simp [trailing] at even
    exact splitOnDouble_single (fun both => other both.1) behind
  | case3 c c' rest double ih =>
    obtain ⟨rfl, rfl⟩ := double
    rw [trailing_double] at even
    rw [List.cons_append, List.cons_append, splitOnDouble_double, ih even, List.cons_append]
  | case4 c c' rest single empty ih => exact absurd empty (splitOnDouble_ne_nil d (c' :: rest))
  | case5 c c' rest single part parts parted ih =>
    rw [trailing_single single] at even
    have later := ih even
    rw [parted] at later
    exact splitOnDouble_single single later

theorem intercalate_cons (c : Char) (sep part : List Char) (parts : List (List Char)) :
    sep.intercalate ((c :: part) :: parts) = c :: sep.intercalate (part :: parts) := by
  cases parts with
  | nil => simp
  | cons next parts => simp [List.intercalate_cons_cons]

theorem intercalate_splitOnDouble (cs : List Char) :
    [d, d].intercalate (splitOnDouble d cs) = cs := by
  fun_induction splitOnDouble d cs with
  | case1 | case2 => simp
  | case3 c c' rest double ih =>
    obtain ⟨rfl, rfl⟩ := double
    obtain ⟨part, parts, parted⟩ := List.exists_cons_of_ne_nil (splitOnDouble_ne_nil c' rest)
    rw [parted] at ih
    rw [parted, List.intercalate_cons_cons, ih]
    rfl
  | case4 c c' rest single empty ih => exact absurd empty (splitOnDouble_ne_nil d (c' :: rest))
  | case5 c c' rest single part parts parted ih =>
    rw [parted] at ih
    rw [intercalate_cons, ih]

theorem splitOnDouble_cons_eq {c : Char} {rest part : List Char} {parts : List (List Char)}
    (parted : splitOnDouble d (c :: rest) = part :: parts) :
    part.head? = some c ∨ part = [] ∧ parts ≠ [] ∧ c = d := by
  cases rest with
  | nil =>
    obtain ⟨rfl, _⟩ := List.cons.inj parted
    exact .inl rfl
  | cons c' rest =>
    by_cases double : c = d ∧ c' = d
    · obtain ⟨rfl, rfl⟩ := double
      rw [splitOnDouble_double] at parted
      obtain ⟨rfl, rfl⟩ := List.cons.inj parted
      exact .inr ⟨rfl, splitOnDouble_ne_nil _ rest, rfl⟩
    · obtain ⟨next, parts', parted'⟩ :=
        List.exists_cons_of_ne_nil (splitOnDouble_ne_nil d (c' :: rest))
      rw [splitOnDouble_single double parted'] at parted
      obtain ⟨rfl, _⟩ := List.cons.inj parted
      exact .inl rfl

theorem undoubled_of_mem_splitOnDouble {cs part : List Char}
    (member : part ∈ splitOnDouble d cs) : ¬ [d, d] <:+: part := by
  fun_induction splitOnDouble d cs generalizing part with
  | case1 | case2 =>
    obtain rfl := List.mem_singleton.mp member
    intro occurs
    simpa using occurs.length_le
  | case3 c c' rest double ih =>
    obtain rfl | later := List.mem_cons.mp member
    · simp
    · exact ih later
  | case4 c c' rest single empty ih => exact absurd empty (splitOnDouble_ne_nil d (c' :: rest))
  | case5 c c' rest single first parts parted ih =>
    rw [parted] at ih
    obtain rfl | later := List.mem_cons.mp member
    · rw [List.infix_cons_iff, not_or]
      refine ⟨fun atFront => single ?_, ih List.mem_cons_self⟩
      -- The part behind starts with `c'` if it starts with anything.
      obtain head | ⟨rfl, _⟩ := splitOnDouble_cons_eq parted
      · cases first <;> simp_all [List.cons_prefix_cons]
      · simp [List.cons_prefix_cons] at atFront
    · exact ih (List.mem_cons_of_mem _ later)

theorem getLast?_of_mem_dropLast_splitOnDouble {cs part : List Char}
    (member : part ∈ (splitOnDouble d cs).dropLast) : part.getLast? ≠ some d := by
  fun_induction splitOnDouble d cs generalizing part with
  | case1 | case2 => cases member
  | case3 c c' rest double ih =>
    rw [List.dropLast_cons_of_ne_nil (splitOnDouble_ne_nil d rest)] at member
    obtain rfl | later := List.mem_cons.mp member
    · simp
    · exact ih later
  | case4 c c' rest single empty ih => exact absurd empty (splitOnDouble_ne_nil d (c' :: rest))
  | case5 c c' rest single first parts parted ih =>
    by_cases last : parts = []
    · subst last
      cases member
    rw [parted, List.dropLast_cons_of_ne_nil last] at ih
    rw [List.dropLast_cons_of_ne_nil last] at member
    obtain rfl | later := List.mem_cons.mp member
    · obtain head | ⟨rfl, _, rfl⟩ := splitOnDouble_cons_eq parted
      · cases first with
        | nil => cases head
        | cons c'' first => simpa using ih List.mem_cons_self
      · intro same
        exact single ⟨by simpa using same, rfl⟩
    · exact ih (List.mem_cons_of_mem _ later)

end Text
end SavedFilter
