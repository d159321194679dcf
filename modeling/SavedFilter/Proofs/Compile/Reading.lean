import SavedFilter.Compile.Builder
import SavedFilter.Proofs.Balance
import SavedFilter.Proofs.Descent

/-! # Reading filters by recursive descent

A grammar for the terms of a filter as its user wrote them, and the tree that it gives them. A
disjunction is made of conjunctions with disjunction marks between them, a conjunction is made of
operands with conjunction marks or nothing between them, and both group from the left. An operand
is a condition or a disjunction in parentheses; where none begins, its place is empty.

`disjunction?` reads a disjunction from the front of terms by recursive descent. On terms whose
parentheses are balanced it finds a tree of the grammar for all of them, `ofTerms?_of_balanced`. -/
set_option autoImplicit false
namespace SavedFilter

open Descent

inductive TermTree where
  /-- An empty place. -/
  | always
  | condition (position : Nat) (t : Term)
  | join (c : Connective) (left right : TermTree)
deriving DecidableEq

abbrev PlacedTerm := Term × Nat

def Term.startsOperand (t : Term) : Bool := t.isAtomic || t.operator == .opening

namespace TermTree

inductive Phrase where
  | operand
  | conjunction
  | disjunction

/-- `Reads phrase ts tree rest`: the terms `ts` begin with a phrase that groups as `tree`, and
`rest` is behind it. -/
inductive Reads : Phrase → List PlacedTerm → TermTree → List PlacedTerm → Prop where
  | condition {t : Term} {n : Nat} {ts : List PlacedTerm} (atomic : t.isAtomic) :
      Reads .operand ((t, n) :: ts) (.condition n t) ts
  | group {t u : Term} {n k : Nat} {ts rest : List PlacedTerm} {tree : TermTree}
      (opening : t.operator = .opening) (inner : Reads .disjunction ts tree ((u, k) :: rest))
      (closing : u.operator = .closing) : Reads .operand ((t, n) :: ts) tree rest
  | empty {ts : List PlacedTerm} (noneStarts : ∀ p ∈ ts.head?, p.1.startsOperand = false) :
      Reads .operand ts .always ts
  | operand {ts rest : List PlacedTerm} {tree : TermTree} (only : Reads .operand ts tree rest) :
      Reads .conjunction ts tree rest
  | and {t : Term} {n : Nat} {ts mid rest : List PlacedTerm} {left right : TermTree}
      (first : Reads .conjunction ts left ((t, n) :: mid)) (mark : t.operator = .and)
      (last : Reads .operand mid right rest) : Reads .conjunction ts (.join .and left right) rest
  | adjacent {t : Term} {n : Nat} {ts mid rest : List PlacedTerm} {left right : TermTree}
      (first : Reads .conjunction ts left ((t, n) :: mid)) (starts : t.startsOperand)
      (last : Reads .operand ((t, n) :: mid) right rest) :
      Reads .conjunction ts (.join .and left right) rest
  | conjunction {ts rest : List PlacedTerm} {tree : TermTree}
      (only : Reads .conjunction ts tree rest) : Reads .disjunction ts tree rest
  | or {t : Term} {n : Nat} {ts mid rest : List PlacedTerm} {left right : TermTree}
      (first : Reads .disjunction ts left ((t, n) :: mid)) (mark : t.operator = .or)
      (last : Reads .conjunction mid right rest) :
      Reads .disjunction ts (.join .or left right) rest

def conditions : TermTree → List PlacedTerm
  | always => []
  | condition position t => [(t, position)]
  | join _ left right => left.conditions ++ right.conditions

theorem Reads.conditions_append {phrase : Phrase} {ts rest : List PlacedTerm} {tree : TermTree}
    (h : Reads phrase ts tree rest) :
    tree.conditions ++ rest.filter (·.1.isAtomic) = ts.filter (·.1.isAtomic) := by
  induction h with
  | condition atomic => simp [conditions, atomic]
  | group opening _ closing ih =>
    simpa [Term.isAtomic, Operator.isAtomic, opening, closing] using ih
  | empty => simp [conditions]
  | operand _ ih => exact ih
  | and _ mark _ ihFirst ihLast =>
    rw [conditions, List.append_assoc, ihLast, ← ihFirst]
    simp [Term.isAtomic, Operator.isAtomic, mark]
  | adjacent _ _ _ ihFirst ihLast => rw [conditions, List.append_assoc, ihLast, ihFirst]
  | conjunction _ ih => exact ih
  | or _ mark _ ihFirst ihLast =>
    rw [conditions, List.append_assoc, ihLast, ← ihFirst]
    simp [Term.isAtomic, Operator.isAtomic, mark]

/-! ## The reader -/

mutual

def operand? (ts : List PlacedTerm) : Option (TermTree × List PlacedTerm) :=
  match ts with
  | [] => some (.always, [])
  | (t, position) :: rest =>
    match t.operator with
    | .plain | .not => some (.condition position t, rest)
    | .opening => do
      let (tree, rest) ← disjunction? rest
      match rest with
      | (u, _) :: rest => if u.operator = .closing then some (tree, rest) else none
      | [] => none
    | .and | .or | .closing => some (.always, ts)
termination_by 5 * ts.length

def conjunctionFrom? (left : TermTree) (ts : List PlacedTerm) :
    Option (TermTree × List PlacedTerm) :=
  match ts with
  | [] => some (left, [])
  | (t, position) :: others =>
    match t.operator with
    | .and => do
      let ⟨right, rest, _⟩ ← within others.length (operand? others)
      conjunctionFrom? (.join .and left right) rest
    | .plain | .not | .opening => do
      let ⟨right, rest, _⟩ ← within others.length (operand? ((t, position) :: others))
      conjunctionFrom? (.join .and left right) rest
    | .or | .closing => some (left, ts)
termination_by 5 * ts.length + 1

def conjunction? (ts : List PlacedTerm) : Option (TermTree × List PlacedTerm) := do
  let ⟨left, rest, _⟩ ← within ts.length (operand? ts)
  conjunctionFrom? left rest
termination_by 5 * ts.length + 2

def disjunctionFrom? (left : TermTree) (ts : List PlacedTerm) :
    Option (TermTree × List PlacedTerm) :=
  match ts with
  | [] => some (left, [])
  | (t, _) :: others =>
    if t.operator = .or then do
      let ⟨right, rest, _⟩ ← within others.length (conjunction? others)
      disjunctionFrom? (.join .or left right) rest
    else some (left, ts)
termination_by 5 * ts.length + 3

def disjunction? (ts : List PlacedTerm) : Option (TermTree × List PlacedTerm) := do
  let ⟨left, rest, _⟩ ← within ts.length (conjunction? ts)
  disjunctionFrom? left rest
termination_by 5 * ts.length + 4

end

def ofTerms? (terms : List Term) : Option TermTree :=
  match disjunction? terms.zipIdx with
  | some (tree, []) => some tree
  | _ => none

/-! ## Balanced terms are read to their end -/

/-- The terms all take part, and close `depth` groups more than they open. -/
structure Closes (depth : Nat) (ts : List PlacedTerm) : Prop where
  live : ∀ p ∈ ts, p.1.isLive
  balanced : Balance.BalancedFrom depth (ts.map Prod.fst)

namespace Closes

variable {depth n : Nat} {t : Term} {ts : List PlacedTerm}

theorem first_live (h : Closes depth ((t, n) :: ts)) : t.isLive := h.live (t, n) (by simp)

theorem others_live (h : Closes depth ((t, n) :: ts)) : ∀ p ∈ ts, p.1.isLive := by
  intro p member
  exact h.live p (List.mem_cons_of_mem _ member)

theorem other (h : Closes depth ((t, n) :: ts))
    (noParenthesis : t.operator ≠ .opening ∧ t.operator ≠ .closing) : Closes depth ts := by
  obtain ⟨_, balanced⟩ := (Balance.balancedFrom_cons depth t _).mp h.balanced
  refine ⟨h.others_live, ?_⟩
  simpa [Balance.count_singleton, noParenthesis] using balanced

theorem opening (h : Closes depth ((t, n) :: ts)) (operator : t.operator = .opening) :
    Closes (depth + 1) ts := by
  obtain ⟨_, balanced⟩ := (Balance.balancedFrom_cons depth t _).mp h.balanced
  refine ⟨h.others_live, ?_⟩
  simpa [Balance.count_singleton, h.first_live, operator] using balanced

theorem closing (h : Closes (depth + 1) ((t, n) :: ts)) (operator : t.operator = .closing) :
    Closes depth ts := by
  obtain ⟨_, balanced⟩ := (Balance.balancedFrom_cons (depth + 1) t _).mp h.balanced
  refine ⟨h.others_live, ?_⟩
  simpa [Balance.count_singleton, h.first_live, operator] using balanced

/-- Where nothing is left, nothing is open; where a group is left to close, one is open. -/
theorem eq_nil_or_closing (h : Closes depth ts)
    (stops : ∀ p ∈ ts.head?, p.1.operator = .closing) :
    (depth = 0 ∧ ts = []) ∨
      ∃ d u k rest, depth = d + 1 ∧ ts = (u, k) :: rest ∧ u.operator = .closing ∧
        Closes d rest := by
  cases ts with
  | nil => exact .inl ⟨(Balance.balancedFrom_nil depth).mp h.balanced, rfl⟩
  | cons p rest =>
    obtain ⟨u, k⟩ := p
    have operator : u.operator = .closing := stops (u, k) rfl
    have opened := ((Balance.balancedFrom_cons depth u _).mp h.balanced).1
    simp only [Balance.count_singleton, h.first_live, operator] at opened
    cases depth with
    | zero => exact absurd opened (by decide)
    | succ d => exact .inr ⟨d, u, k, rest, rfl, rfl, operator, h.closing operator⟩

end Closes

def Phrase.Stops : Phrase → Term → Prop
  | .operand, _ => True
  | .conjunction, t => t.operator = .or ∨ t.operator = .closing
  | .disjunction, t => t.operator = .closing

/-- A phrase was read from the terms `start`, with at most `size` terms left. -/
def ReadsTo (phrase : Phrase) (start : List PlacedTerm) (depth size : Nat)
    (result : Option (TermTree × List PlacedTerm)) : Prop :=
  ∃ tree rest, result = some (tree, rest) ∧ Reads phrase start tree rest ∧ Closes depth rest ∧
    rest.length ≤ size ∧ ∀ p ∈ rest.head?, phrase.Stops p.1

section Step

/- The groups inside a phrase are shorter than it, so disjunctions up to some size are given. -/
variable {size : Nat} (inner : ∀ ts depth, ts.length < size → Closes depth ts →
  ReadsTo .disjunction ts depth ts.length (disjunction? ts))
include inner

theorem operand?_starting {t : Term} {n depth : Nat} {ts : List PlacedTerm}
    (small : ts.length < size) (h : Closes depth ((t, n) :: ts)) (starts : t.startsOperand) :
    ReadsTo .operand ((t, n) :: ts) depth ts.length (operand? ((t, n) :: ts)) := by
  cases operator : t.operator with
  | plain | not =>
    have atomic : t.isAtomic := by simp [Term.isAtomic, operator, Operator.isAtomic]
    refine ⟨.condition n t, ts, ?_, .condition atomic, h.other (by simp [operator]), Nat.le_refl _,
      fun _ _ => trivial⟩
    rw [operand?, operator]
  | opening =>
    obtain ⟨tree, rest, read, reads, closes, shorter, stops⟩ :=
      inner ts (depth + 1) small (h.opening operator)
    obtain ⟨zero, _⟩ | ⟨d, u, k, rest, depthEq, rfl, closing, left⟩ :=
      closes.eq_nil_or_closing stops
    · omega
    · cases Nat.succ.inj depthEq
      refine ⟨tree, rest, ?_, .group operator reads closing, left, ?_, fun _ _ => trivial⟩
      · rw [operand?, operator]
        simp [read, closing]
      · simp only [List.length_cons] at shorter
        omega
  | and | or | closing =>
    simp [Term.startsOperand, Term.isAtomic, operator, Operator.isAtomic] at starts

theorem operand?_reads {depth : Nat} {ts : List PlacedTerm} (small : ts.length ≤ size)
    (h : Closes depth ts) : ReadsTo .operand ts depth ts.length (operand? ts) := by
  cases ts with
  | nil => exact ⟨.always, [], by rw [operand?], .empty (by simp), h, Nat.le_refl _, by simp⟩
  | cons p ts =>
    obtain ⟨t, n⟩ := p
    cases starts : t.startsOperand with
    | true =>
      obtain ⟨tree, rest, read, reads, closes, shorter, stops⟩ :=
        operand?_starting inner small h starts
      exact ⟨tree, rest, read, reads, closes, Nat.le_succ_of_le shorter, stops⟩
    | false =>
      refine ⟨.always, (t, n) :: ts, ?_, .empty (by simpa using starts), h, Nat.le_refl _,
        fun _ _ => trivial⟩
      rw [operand?]
      cases operator : t.operator <;>
        simp_all [Term.startsOperand, Term.isAtomic, Operator.isAtomic]

theorem conjunctionFrom?_reads {start ts : List PlacedTerm} {left : TermTree} {depth : Nat}
    (small : ts.length ≤ size) (h : Closes depth ts) (before : Reads .conjunction start left ts) :
    ReadsTo .conjunction start depth ts.length (conjunctionFrom? left ts) := by
  induction length : ts.length using Nat.strongRecOn generalizing ts left depth with
  | ind len ih =>
    subst length
    cases ts with
    | nil => exact ⟨left, [], by rw [conjunctionFrom?], before, h, Nat.le_refl _, by simp⟩
    | cons p ts =>
      obtain ⟨t, n⟩ := p
      rw [List.length_cons] at small
      -- Both ways to go on read one operand and leave less than there is.
      have goOn : ∀ right rest, rest.length ≤ ts.length → Closes depth rest →
          Reads .conjunction start (.join .and left right) rest →
          ReadsTo .conjunction start depth (ts.length + 1)
            (conjunctionFrom? (.join .and left right) rest) := by
        intro right rest shorter closes reads
        obtain ⟨tree, rest', read, reads', closes', shorter', stops⟩ :=
          ih rest.length (Nat.lt_succ_of_le shorter) (by omega) closes reads rfl
        exact ⟨tree, rest', read, reads', closes', by omega, stops⟩
      cases operator : t.operator with
      | and =>
        obtain ⟨right, rest, read, reads, closes, shorter, _⟩ :=
          operand?_reads inner (by omega) (h.other (by simp [operator]))
        rw [conjunctionFrom?, operator]
        simp only [read, within_some shorter]
        exact goOn right rest shorter closes (.and before operator reads)
      | plain | not | opening =>
        have starts : t.startsOperand := by
          simp [Term.startsOperand, Term.isAtomic, operator, Operator.isAtomic]
        obtain ⟨right, rest, read, reads, closes, shorter, _⟩ :=
          operand?_starting inner (by omega) h starts
        rw [conjunctionFrom?, operator]
        simp only [read, within_some shorter]
        exact goOn right rest shorter closes (.adjacent before starts reads)
      | or | closing =>
        refine ⟨left, (t, n) :: ts, ?_, before, h, Nat.le_refl _, ?_⟩
        · rw [conjunctionFrom?, operator]
        · simp [Phrase.Stops, operator]

theorem conjunction?_reads {depth : Nat} {ts : List PlacedTerm} (small : ts.length ≤ size)
    (h : Closes depth ts) : ReadsTo .conjunction ts depth ts.length (conjunction? ts) := by
  obtain ⟨left, rest, read, reads, closes, shorter, _⟩ := operand?_reads inner small h
  obtain ⟨tree, rest', read', reads', closes', shorter', stops⟩ :=
    conjunctionFrom?_reads inner (by omega) closes (.operand reads)
  refine ⟨tree, rest', ?_, reads', closes', by omega, stops⟩
  rw [conjunction?, read, within_some shorter]
  exact read'

theorem disjunctionFrom?_reads {start ts : List PlacedTerm} {left : TermTree} {depth : Nat}
    (small : ts.length ≤ size) (h : Closes depth ts) (before : Reads .disjunction start left ts)
    (stops : ∀ p ∈ ts.head?, Phrase.conjunction.Stops p.1) :
    ReadsTo .disjunction start depth ts.length (disjunctionFrom? left ts) := by
  induction length : ts.length using Nat.strongRecOn generalizing ts left depth with
  | ind len ih =>
    subst length
    cases ts with
    | nil => exact ⟨left, [], by rw [disjunctionFrom?], before, h, Nat.le_refl _, by simp⟩
    | cons p ts =>
      obtain ⟨t, n⟩ := p
      rw [List.length_cons] at small
      by_cases operator : t.operator = .or
      · obtain ⟨right, rest, read, reads, closes, shorter, stops⟩ :=
          conjunction?_reads inner (by omega) (h.other (by simp [operator]))
        obtain ⟨tree, rest', read', reads', closes', shorter', stops'⟩ :=
          ih rest.length (Nat.lt_succ_of_le shorter) (by omega) closes (.or before operator reads)
            stops rfl
        refine ⟨tree, rest', ?_, reads', closes', by rw [List.length_cons]; omega, stops'⟩
        rw [disjunctionFrom?, if_pos operator, read, within_some shorter]
        exact read'
      · have closing : t.operator = .closing := (stops (t, n) rfl).resolve_left operator
        refine ⟨left, (t, n) :: ts, ?_, before, h, Nat.le_refl _, by simpa [Phrase.Stops]⟩
        rw [disjunctionFrom?, if_neg operator]

theorem disjunction?_reads_step {depth : Nat} {ts : List PlacedTerm} (small : ts.length ≤ size)
    (h : Closes depth ts) : ReadsTo .disjunction ts depth ts.length (disjunction? ts) := by
  obtain ⟨left, rest, read, reads, closes, shorter, stops⟩ := conjunction?_reads inner small h
  obtain ⟨tree, rest', read', reads', closes', shorter', stops'⟩ :=
    disjunctionFrom?_reads inner (by omega) closes (.conjunction reads) stops
  refine ⟨tree, rest', ?_, reads', closes', by omega, stops'⟩
  rw [disjunction?, read, within_some shorter]
  exact read'

end Step

theorem disjunction?_reads {depth : Nat} {ts : List PlacedTerm} (h : Closes depth ts) :
    ReadsTo .disjunction ts depth ts.length (disjunction? ts) := by
  induction length : ts.length using Nat.strongRecOn generalizing ts depth with
  | ind len ih =>
    subst length
    exact disjunction?_reads_step (fun us d small closes => ih us.length small closes rfl)
      (Nat.le_refl _) h

/-- Live terms with balanced parentheses have a tree, and it is one of the grammar. -/
theorem ofTerms?_of_balanced {live : List Term} (allLive : ∀ t ∈ live, t.isLive)
    (balanced : Balance.Balanced live) :
    ∃ tree, ofTerms? live = some tree ∧ Reads .disjunction live.zipIdx tree [] := by
  have closes : Closes 0 live.zipIdx := by
    refine ⟨fun p member => allLive p.1 (List.fst_mem_of_mem_zipIdx member), ?_⟩
    rw [List.zipIdx_map_fst]
    exact (Balance.balancedFrom_zero live).mpr balanced
  obtain ⟨tree, rest, read, reads, left, _, stops⟩ := disjunction?_reads closes
  obtain ⟨_, rfl⟩ | ⟨d, u, k, rest, zero, _⟩ := left.eq_nil_or_closing stops
  · exact ⟨tree, by rw [ofTerms?, read], reads⟩
  · omega

end TermTree
end SavedFilter
