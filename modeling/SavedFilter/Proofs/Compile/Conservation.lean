import SavedFilter.Proofs.Compile.Heights

/-! # What evaluation conserves

Tokens in any order have a program, in normal form or not, and many that are out of it leave one
predicate. A program can be run on trees in place of predicates, and then the code of the trees on
the stack is the part of the program that was run, `codes_of_run`. So a program that leaves one
predicate is the code of one tree, `Builder.run_builds`.

What a program consists of is settled before it is run: every condition is one operand of it, in
order, and every operator waits until it is released once, unless a parenthesis fails,
`ofTokensFrom_conserves`. Both together say what a predicate was built from:
`tokens_conserved`. -/
set_option autoImplicit false
namespace SavedFilter

/-! ## Programs on trees -/

namespace Program

def stepTree (stack : List TermTree) : Step → Option (List TermTree)
  | .operand position t => some (.condition position t :: stack)
  | .apply .always => some (.always :: stack)
  | .apply (.join c) =>
    match stack with
    | right :: left :: rest => some (.join c left right :: rest)
    | _ => none
  | .fail _ => none

def codes (stack : List TermTree) : List Step := stack.reverse.flatMap TermTree.code

theorem codes_cons (tree : TermTree) (stack : List TermTree) :
    codes (tree :: stack) = codes stack ++ tree.code := by
  simp [codes]

/-- A step makes of the trees that it takes one tree, which has their code and the step. -/
theorem codes_of_stepTree {stack after : List TermTree} {step : Step}
    (h : stepTree stack step = some after) : codes after = codes stack ++ [step] := by
  cases step with
  | operand position t =>
    cases h
    exact codes_cons _ _
  | apply o =>
    cases o with
    | always =>
      cases h
      exact codes_cons _ _
    | join c =>
      match stack with
      | [] => cases h
      | [_] => cases h
      | right :: left :: rest =>
        cases h
        simp only [codes_cons, TermTree.code, List.append_assoc]
  | fail cause => cases h

theorem codes_of_run {program : List Step} {stack after : List TermTree}
    (h : program.foldlM stepTree stack = some after) : codes after = codes stack ++ program := by
  induction program generalizing stack with
  | nil =>
    cases h
    exact (List.append_nil _).symm
  | cons step program ih =>
    rw [List.foldlM_cons] at h
    obtain ⟨between, first, later⟩ := Option.bind_eq_some_iff.mp h
    rw [ih later, codes_of_stepTree first, List.append_assoc, List.singleton_append]

end Program

/-! ## Runs that succeed -/

section Run

open Program

variable {m : Type → Type} [Monad m] [LawfulMonad m] {π : Type} (b : Builder m π)

/-- A stack of predicates that is as high as the stack of trees, if there is one at all. -/
def Mirrors (trees : Option (List TermTree)) (result : Except CompileError (List π)) : Prop :=
  ∀ stack, result = .ok stack → ∃ mirrored, trees = some mirrored ∧ stack.length = mirrored.length

theorem mirrors_error (trees : Option (List TermTree)) (e : CompileError) :
    Mirrors (π := π) trees (.error e) := by
  intro stack h
  cases h

theorem mirrors_push {stack : List π} {trees : List TermTree}
    (height : stack.length = trees.length) (tree : TermTree) (x : ExceptT CompileError m π) :
    Ensures (Mirrors (some (tree :: trees)))
      (x >>= fun p => pure (p :: stack) : ExceptT CompileError m (List π)).run := by
  rw [ExceptT.run_bind]
  refine (Ensures.trivial x.run).bind fun result _ => ?_
  cases result with
  | error e => exact Ensures.pure (mirrors_error _ e)
  | ok p =>
    refine Ensures.pure fun after h => ⟨tree :: trees, rfl, ?_⟩
    cases h
    simp only [List.length_cons, height]

theorem Builder.step_mirrors {stack : List π} {trees : List TermTree}
    (height : stack.length = trees.length) (step : Step) :
    Ensures (Mirrors (stepTree trees step)) (b.step stack step).run := by
  cases step with
  | operand position t => exact mirrors_push height _ _
  | apply o =>
    cases o with
    | always => exact mirrors_push height _ _
    | join c =>
      match stack, trees with
      | [], _ => exact Ensures.pure (mirrors_error _ _)
      | [_], _ => exact Ensures.pure (mirrors_error _ _)
      | right :: left :: rest, [] => cases height
      | right :: left :: rest, [_] => simp at height
      | right :: left :: rest, _ :: _ :: below =>
        simp only [List.length_cons, Nat.add_right_cancel_iff] at height
        exact mirrors_push height _ _
  | fail cause => exact Ensures.pure (mirrors_error _ _)

theorem Builder.foldlM_mirrors {stack : List π} {trees : List TermTree}
    (height : stack.length = trees.length) (program : List Step) :
    Ensures (Mirrors (program.foldlM stepTree trees)) (program.foldlM b.step stack).run := by
  induction program generalizing stack trees with
  | nil =>
    refine Ensures.pure fun after h => ⟨trees, rfl, ?_⟩
    cases h
    exact height
  | cons step program ih =>
    rw [List.foldlM_cons, List.foldlM_cons, ExceptT.run_bind]
    refine (b.step_mirrors height step).bind fun result mirrors => ?_
    cases result with
    | error e => exact Ensures.pure (mirrors_error _ e)
    | ok after =>
      obtain ⟨between, first, height⟩ := mirrors after rfl
      rw [first]
      exact ih height

/-- A program that leaves one predicate is the code of a tree. -/
theorem Builder.run_builds (program : List Step) :
    Ensures (fun result => ∀ p, result = .ok p → ∃ tree : TermTree, program = tree.code)
      (b.run program).run := by
  have height : ([] : List π).length = ([] : List TermTree).length := rfl
  rw [run, ExceptT.run_bind]
  refine (b.foldlM_mirrors height program).bind fun result mirrors => ?_
  cases result with
  | error e => exact Ensures.pure fun p h => by cases h
  | ok stack =>
    obtain ⟨trees, leaves, height⟩ := mirrors stack rfl
    cases stack with
    | nil => exact Ensures.pure fun p h => by cases h
    | cons p others =>
      cases others with
      | nil =>
        obtain ⟨tree, rfl⟩ := List.length_eq_one_iff.mp height.symm
        have code := codes_of_run leaves
        exact Ensures.pure fun _ _ => ⟨tree, by simpa [codes] using code.symm⟩
      | cons _ _ => exact Ensures.pure fun p h => by cases h

end Run

/-! ## What a program consists of -/

def Step.operand? : Step → Option PlacedTerm
  | .operand position t => some (t, position)
  | _ => none

def Operation.kind : Operation → Token.Kind
  | always => .filler
  | join c => c.mark

namespace Token

def Kind.operation? : Kind → Option Operation
  | filler => some .always
  | and => some (.join .and)
  | or => some (.join .or)
  | atom _ | opening | closing => none

theorem operation?_eq_some_iff (kind : Kind) (o : Operation) :
    kind.operation? = some o ↔ kind = o.kind := by
  cases o with
  | always => cases kind <;> simp [Kind.operation?, Operation.kind]
  | join c => cases c <;> cases kind <;> simp [Kind.operation?, Operation.kind, Connective.mark]

/-- The condition that a token is, at its position or else at its index among the tokens. -/
def condition? (index : Nat) (t : Token) : Option PlacedTerm :=
  match t.kind with
  | .atom term => some (term, t.position.getD index)
  | _ => none

def conditionsFrom (index : Nat) (ts : List Token) : List PlacedTerm :=
  (ts.zipIdx index).filterMap fun (t, i) => t.condition? i

def count (kind : Kind) (ts : List Token) : Nat := ts.countP (·.kind == kind)

def NestedFrom (depth : Nat) (ts : List Token) : Prop :=
  (∀ k, count .closing (ts.take k) ≤ depth + count .opening (ts.take k)) ∧
    depth + count .opening ts = count .closing ts

/-- No initial part of the tokens closes more groups than it opens, and all of them together close
as many as they open. -/
def Nested (ts : List Token) : Prop :=
  (∀ k, count .closing (ts.take k) ≤ count .opening (ts.take k)) ∧
    count .opening ts = count .closing ts

theorem nestedFrom_zero (ts : List Token) : NestedFrom 0 ts ↔ Nested ts := by
  simp [NestedFrom, Nested]

theorem conditionsFrom_cons (index : Nat) (t : Token) (ts : List Token) :
    conditionsFrom index (t :: ts) =
      (t.condition? index).toList ++ conditionsFrom (index + 1) ts := by
  cases condition : t.condition? index with
  | none => simp [conditionsFrom, condition]
  | some p => simp [conditionsFrom, condition]

theorem count_cons (kind : Kind) (t : Token) (ts : List Token) :
    count kind (t :: ts) = (if t.kind = kind then 1 else 0) + count kind ts := by
  simp [count, List.countP_cons, Nat.add_comm]

theorem count_operations (o : Operation) (t : Token) (ts : List Token) :
    count o.kind (t :: ts) = (if t.kind.operation? = some o then 1 else 0) + count o.kind ts := by
  simp only [count_cons, operation?_eq_some_iff]

/-- What the first token opens and closes is taken into the depth. -/
theorem NestedFrom.cons {depth depth' : Nat} {t : Token} {ts : List Token}
    (moves : depth + count .opening [t] = depth' + count .closing [t]) (h : NestedFrom depth' ts) :
    NestedFrom depth (t :: ts) := by
  obtain ⟨within, total⟩ := h
  have first (kind : Kind) (us : List Token) :
      count kind (t :: us) = count kind [t] + count kind us := by
    rw [count_cons, count_cons kind t []]
    rfl
  constructor
  · intro k
    cases k with
    | zero => exact Nat.zero_le _
    | succ k =>
      have later := within k
      rw [List.take_succ_cons, first, first .opening]
      omega
  · rw [first, first .closing]
    omega

end Token

namespace Program

/-- `Released steps ws left`: the operators in front of `left` among those that wait are released,
each by one step. -/
inductive Released : List Step → List Waiting → List Waiting → Prop where
  | none {ws : List Waiting} : Released [] ws ws
  | operation {o : Operation} {steps : List Step} {ws left : List Waiting}
      (later : Released steps ws left) :
      Released (.apply o :: steps) (.operation o :: ws) left

theorem released_release (rank : Nat) (ws : List Waiting) :
    Released (release rank ws).1 ws (release rank ws).2 := by
  induction ws with
  | nil => exact .none
  | cons w ws ih =>
    cases w with
    | group => exact .none
    | operation o =>
      by_cases binds : rank ≤ o.rank
      · rw [release_operation binds]
        exact .operation ih
      · rw [release, if_neg binds]
        exact .none

theorem released_all {ws : List Waiting} (closed : openGroups ws = 0) :
    Released (release 0 ws).1 ws [] := by
  induction ws with
  | nil => exact .none
  | cons w ws ih =>
    cases w with
    | group => simp [openGroups_group] at closed
    | operation o =>
      rw [openGroups_operation] at closed
      rw [release_operation (Nat.zero_le _)]
      exact .operation (ih closed)

theorem released_group {ws left : List Waiting} (closes : (releaseGroup ws).2 = some left) :
    Released (releaseGroup ws).1 ws (.group :: left) := by
  induction ws with
  | nil => cases closes
  | cons w ws ih =>
    cases w with
    | group =>
      cases closes
      exact .none
    | operation o => exact .operation (ih closes)

section Released

variable {steps : List Step} {ws left : List Waiting}

theorem Released.operands (h : Released steps ws left) : steps.filterMap Step.operand? = [] := by
  induction h with
  | none => rfl
  | operation _ ih => exact ih

theorem Released.openGroups (h : Released steps ws left) : openGroups left = openGroups ws := by
  induction h with
  | none => rfl
  | operation _ ih => rw [openGroups_operation, ih]

theorem Released.operations (h : Released steps ws left) (o : Operation) :
    ws.count (.operation o) = steps.count (.apply o) + left.count (.operation o) := by
  induction h with
  | none => simp
  | @operation o' steps ws left _ ih =>
    by_cases same : o' = o
    · subst same
      rw [List.count_cons_self, List.count_cons_self, ih]
      omega
    · have apart : Waiting.operation o' ≠ .operation o := by simpa using same
      have stepsApart : Step.apply o' ≠ .apply o := by simpa using same
      rw [List.count_cons_of_ne apart, List.count_cons_of_ne stepsApart, ih]

end Released

/-- A program has the conditions of its tokens as its operands, in their order, and it applies the
operators that waited before and those among the tokens. The tokens close the groups that were
open and those that they open. -/
structure Conserves (index : Nat) (ws : List Waiting) (ts : List Token) (program : List Step) :
    Prop where
  operands : program.filterMap Step.operand? = Token.conditionsFrom index ts
  operations : ∀ o, program.count (.apply o) = ws.count (.operation o) + Token.count o.kind ts
  nested : Token.NestedFrom (openGroups ws) ts

section Conserves

variable {index : Nat} {ws left : List Waiting} {ts : List Token} {steps program : List Step}

theorem conserves_nil (released : Released steps ws []) : Conserves index ws [] steps := by
  have closed : openGroups ws = 0 := released.openGroups.symm
  refine ⟨released.operands, ?_, ?_⟩
  · intro o
    rw [released.operations o]
    simp [Token.count]
  · simp [Token.NestedFrom, Token.count, closed]

theorem conserves_condition (h : Conserves (index + 1) ws ts program) (t : Term)
    (position : Option Nat) : Conserves index ws (⟨.atom t, position⟩ :: ts)
      (.operand (position.getD index) t :: program) := by
  refine ⟨?_, ?_, h.nested.cons rfl⟩
  · rw [Token.conditionsFrom_cons, ← h.operands]
    rfl
  · intro o
    rw [Token.count_operations, List.count_cons_of_ne (by simp), h.operations o]
    simp [Token.Kind.operation?]

theorem conserves_opening (h : Conserves (index + 1) (.group :: ws) ts program)
    (position : Option Nat) : Conserves index ws (⟨.opening, position⟩ :: ts) program := by
  refine ⟨?_, ?_, h.nested.cons ?_⟩
  · rw [Token.conditionsFrom_cons, h.operands]
    rfl
  · intro o
    rw [Token.count_operations, h.operations o, List.count_cons_of_ne (by simp)]
    simp [Token.Kind.operation?]
  · rw [openGroups_group]
    rfl

theorem conserves_closing (released : Released steps ws (.group :: left))
    (h : Conserves (index + 1) left ts program) (position : Option Nat) :
    Conserves index ws (⟨.closing, position⟩ :: ts) (steps ++ program) := by
  refine ⟨?_, ?_, h.nested.cons ?_⟩
  · rw [List.filterMap_append, released.operands, h.operands, Token.conditionsFrom_cons]
    rfl
  · intro o
    have kept := released.operations o
    rw [List.count_cons_of_ne (by simp)] at kept
    rw [Token.count_operations, List.count_append, h.operations o, kept]
    simp [Token.Kind.operation?, Nat.add_assoc]
  · rw [← released.openGroups, openGroups_group]
    rfl

theorem conserves_operator {kind : Token.Kind} {o : Operation}
    (operator : kind.operation? = some o) (released : Released steps ws left)
    (h : Conserves (index + 1) (.operation o :: left) ts program) (position : Option Nat) :
    Conserves index ws (⟨kind, position⟩ :: ts) (steps ++ program) := by
  refine ⟨?_, ?_, h.nested.cons ?_⟩
  · rw [List.filterMap_append, released.operands, h.operands, Token.conditionsFrom_cons]
    cases kind with
    | and | or | filler => rfl
    | atom | opening | closing => cases operator
  · intro o'
    have kept := released.operations o'
    rw [Token.count_operations, List.count_append, h.operations o', kept, operator]
    simp only [List.count_cons, beq_iff_eq, Waiting.operation.injEq, Option.some.injEq]
    omega
  · rw [← released.openGroups, openGroups_operation]
    cases kind with
    | and | or | filler => rfl
    | atom | opening | closing => cases operator

end Conserves

theorem ofTokensFrom_conserves {index : Nat} {ws : List Waiting} {ts : List Token}
    (unfailing : ∀ cause, .fail cause ∉ ofTokensFrom index ws ts) :
    Conserves index ws ts (ofTokensFrom index ws ts) := by
  induction ts generalizing index ws with
  | nil =>
    rw [ofTokensFrom, finish] at unfailing ⊢
    by_cases closed : openGroups ws = 0
    · rw [if_pos closed]
      exact conserves_nil (released_all closed)
    · rw [if_neg closed] at unfailing
      exact absurd (List.mem_singleton.mpr rfl) (unfailing _)
  | cons t ts ih =>
    obtain ⟨kind, position⟩ := t
    have later {steps program : List Step} (h : ∀ cause, .fail cause ∉ steps ++ program) :
        ∀ cause, .fail cause ∉ program := by
      intro cause member
      exact h cause (List.mem_append_right steps member)
    cases kind with
    | atom t =>
      have unfailingRest : ∀ cause, .fail cause ∉ ofTokensFrom (index + 1) ws ts := by
        intro cause member
        exact unfailing cause (List.mem_cons_of_mem _ member)
      exact conserves_condition (ih unfailingRest) t position
    | opening => exact conserves_opening (ih unfailing) position
    | closing =>
      cases released : releaseGroup ws with
      | mk steps left =>
        simp only [ofTokensFrom, released] at unfailing ⊢
        cases left with
        | none =>
          have fails := unfailing (.unmatchedClosing (position.getD index))
          simp at fails
        | some left =>
          have group : Released steps ws (.group :: left) := by
            have closes : (releaseGroup ws).2 = some left := by rw [released]
            simpa only [released] using released_group closes
          exact conserves_closing group (ih (later unfailing)) position
    | and => exact conserves_operator rfl (released_release 2 ws) (ih (later unfailing)) position
    | or => exact conserves_operator rfl (released_release 1 ws) (ih (later unfailing)) position
    | filler => exact conserves_operator rfl (released_release 3 ws) (ih (later unfailing)) position

end Program

/-! ## What a predicate was built from -/

namespace TermTree

def count (o : Operation) : TermTree → Nat
  | always => if .always = o then 1 else 0
  | condition _ _ => 0
  | join c left right => left.count o + right.count o + if .join c = o then 1 else 0

theorem operands_code (tree : TermTree) : tree.code.filterMap Step.operand? = tree.conditions := by
  induction tree with
  | always => rfl
  | condition position t => rfl
  | join c left right ihLeft ihRight =>
    rw [code, List.filterMap_append, List.filterMap_append, ihLeft, ihRight, conditions]
    exact List.append_nil _

theorem count_code (tree : TermTree) (o : Operation) :
    tree.code.count (.apply o) = tree.count o := by
  induction tree with
  | always => simp [code, count, List.count_cons]
  | condition position t => simp [code, count]
  | join c left right ihLeft ihRight =>
    simp [code, count, ihLeft, ihRight, List.count_append, List.count_cons, Nat.add_assoc]

theorem fail_notMem_code (tree : TermTree) (cause : StructureError) : .fail cause ∉ tree.code := by
  induction tree with
  | always => simp [code]
  | condition position t => simp [code]
  | join c left right ihLeft ihRight => simp [code, ihLeft, ihRight]

/-- The conditions of the tree are those of the tokens, in their order, and it has one constant for
each filler and one join for each mark. -/
structure Conserves (tree : TermTree) (ts : List Token) : Prop where
  conditions : tree.conditions = Token.conditionsFrom 0 ts
  operations : ∀ o, tree.count o = Token.count o.kind ts

end TermTree

/-- A predicate of any tokens is that of one tree, which takes each condition and each operation of
them once. The groups of such tokens are closed. -/
theorem Builder.tokens_conserved {m : Type → Type} [Monad m] [LawfulMonad m] {π : Type}
    (b : Builder m π) (ts : List Token) :
    Ensures (fun result => ∀ p, result = .ok p →
        ∃ tree : TermTree, b.tokens ts = tree.compile b ∧ tree.Conserves ts ∧ Token.Nested ts)
      (b.tokens ts).run := by
  refine (b.run_builds (Program.ofTokens ts)).mono fun result builds p success => ?_
  obtain ⟨tree, program⟩ := builds p success
  have conserves : Program.Conserves 0 [] ts tree.code := by
    rw [← program]
    apply Program.ofTokensFrom_conserves
    intro cause
    rw [← Program.ofTokens, program]
    exact tree.fail_notMem_code cause
  refine ⟨tree, ?_, ⟨?_, ?_⟩, ?_⟩
  · rw [tokens, program, run_code]
  · rw [← tree.operands_code, conserves.operands]
  · intro o
    rw [← tree.count_code, conserves.operations]
    simp
  · exact (Token.nestedFrom_zero ts).mp conserves.nested

/-- `a ( b AND ) TRUE OR`: the conjunction reaches out of its group, and what the filler stands for
comes after it. -/
def crossingTokens : List Token :=
  [.ofTerm 0 { fields := ["a"], lookup := some .equals, value := some "1" },
    .ofTerm 1 (.control .opening),
    .ofTerm 2 { operator := .not, fields := ["b"], lookup := some .equals, value := some "2" },
    .ofTerm 3 (.control .and), .ofTerm 4 (.control .closing), .implicit .filler,
    .ofTerm 5 (.control .or)]

theorem Builder.tokens_conserved_crossing :
    LawfulMonad Id ∧ outcome? (symbolicBuilder.tokens crossingTokens) =
        some "or(and(a=1, not(b=2)), TRUE)" ∧
      ∃ tree : TermTree, symbolicBuilder.tokens crossingTokens = tree.compile symbolicBuilder ∧
        tree.Conserves crossingTokens ∧ Token.Nested crossingTokens := by
  have evaluated : outcome? (symbolicBuilder.tokens crossingTokens) =
      some "or(and(a=1, not(b=2)), TRUE)" := by decide
  have success := (outcome?_eq_some_iff _ _).mp evaluated
  have built := (ensures_id _).mp (symbolicBuilder.tokens_conserved crossingTokens)
  exact ⟨inferInstance, evaluated, built _ success⟩

end SavedFilter
