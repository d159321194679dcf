import SavedFilter.Compile.Symbolic
import SavedFilter.Proofs.Compile.Postfix

/-! # Compiling is folding

Running the program of a tree folds the operations of the builder over the tree: the stack ends as
it was, with one predicate more, `foldlM_code`. So terms with balanced parentheses compile to the
fold over their reading, `liveTerms_of_balanced`, for every builder, whatever its effects. For a
builder without effects, whose comparisons all succeed, that fold is a value: `terms_eq_fold`. -/
set_option autoImplicit false
namespace SavedFilter

section Effects

variable {m : Type → Type} [Monad m] {π : Type}

def Builder.alternative (b : Builder m π) (lookup : Lookup) (value : Option String) (p : π)
    (field : String) : ExceptT TermError m π := do
  let q ← b.compare field lookup value
  b.join .or p q

theorem Builder.term_noField (b : Builder m π) {t : Term} (fields : t.fields = []) :
    b.term t = throw .noField := by
  rw [term, fields]

theorem Builder.term_noLookup (b : Builder m π) {t : Term} (fields : t.fields ≠ [])
    (lookup : t.lookup = none) : b.term t = throw .noLookup := by
  rw [term, lookup]
  cases eq : t.fields with
  | nil => exact absurd eq fields
  | cons first others => rfl

theorem Builder.term_condition (b : Builder m π) {t : Term} {first : String}
    {others : List String} {lookup : Lookup} (fields : t.fields = first :: others)
    (lookupEq : t.lookup = some lookup) :
    b.term t = (do
      let p ← b.compare first lookup t.value
      let p ← others.foldlM (b.alternative lookup t.value) p
      if t.operator = .not then b.not p else return p) := by
  rw [term, fields, lookupEq]
  rfl

def TermTree.compile (b : Builder m π) : TermTree → ExceptT CompileError m π
  | always => b.always
  | condition position t => (b.term t).adapt (CompileError.term position)
  | join c left right => do
    let p ← left.compile b
    let q ← right.compile b
    b.join c p q

variable [LawfulMonad m]

theorem TermTree.foldlM_code (b : Builder m π) (tree : TermTree) (stack : List π) :
    tree.code.foldlM b.step stack = (do
      let p ← tree.compile b
      return p :: stack) := by
  induction tree generalizing stack with
  | always => simp [code, compile, Builder.step]
  | condition position t => simp [code, compile, Builder.step]
  | join c left right ihLeft ihRight =>
    simp [code, compile, List.foldlM_append, ihLeft, ihRight, Builder.step]

theorem Builder.run_code (b : Builder m π) (tree : TermTree) :
    b.run tree.code = tree.compile b := by
  simp [run, TermTree.foldlM_code, result]

theorem Builder.liveTerms_of_reads (b : Builder m π) {live : List Term} {tree : TermTree}
    (balanced : Balance.check live = .ok ())
    (reads : TermTree.Reads .disjunction live.zipIdx tree []) :
    b.liveTerms live = tree.compile b := by
  rw [liveTerms, balanced]
  simp only [tokens, TermTree.program_of_reads reads, run_code]

theorem Builder.liveTerms_of_balanced (b : Builder m π) {live : List Term}
    (allLive : ∀ t ∈ live, t.isLive) (balanced : Balance.check live = .ok ()) :
    ∃ tree, TermTree.ofTerms? live = some tree ∧
      TermTree.Reads .disjunction live.zipIdx tree [] ∧ b.liveTerms live = tree.compile b := by
  obtain ⟨tree, read, reads⟩ :=
    TermTree.ofTerms?_of_balanced allLive ((Balance.check_eq_ok_iff live).mp balanced)
  exact ⟨tree, read, reads, b.liveTerms_of_reads balanced reads⟩

end Effects

/-! ## Builders without effects -/

def outcome? {ε α : Type} (x : ExceptT ε Id α) : Option α := x.run.run.toOption

section Outcome

variable {ε ε' α β : Type}

theorem outcome?_pure (a : α) : outcome? (pure a : ExceptT ε Id α) = some a := rfl

theorem outcome?_adapt (f : ε → ε') (x : ExceptT ε Id α) : outcome? (x.adapt f) = outcome? x := by
  change (Except.mapError f x.run.run).toOption = x.run.run.toOption
  cases x.run.run <;> rfl

theorem outcome?_bind (x : ExceptT ε Id α) (f : α → ExceptT ε Id β) :
    outcome? (x >>= f) = (outcome? x).bind fun a => outcome? (f a) := by
  have unfolded : (x >>= f).run.run = match x.run.run with
      | .ok a => (f a).run.run
      | .error e => .error e := by
    rw [ExceptT.run_bind]
    cases x.run with
    | ok a => rfl
    | error e => rfl
  rw [outcome?, outcome?, unfolded]
  cases x.run.run <;> rfl

theorem outcome?_eq_some_iff (x : ExceptT ε Id α) (a : α) : outcome? x = some a ↔ x = pure a := by
  constructor
  · intro h
    rw [outcome?] at h
    cases run : x.run.run with
    | ok b =>
      rw [run] at h
      cases Option.some.inj h
      exact run
    | error e => simp [run, Except.toOption] at h
  · rintro rfl
    rfl

end Outcome

namespace Builder

variable {π : Type}

/-- The predicate of an atomic term: all of its fields are compared, the comparisons are joined from
the left, and the whole is negated for a negated term. -/
def condition? (b : Builder Id π) (t : Term) : Option π := do
  let lookup ← t.lookup
  match ← t.fields.mapM fun field => outcome? (b.compare field lookup t.value) with
  | [] => none
  | p :: ps =>
    let any := ps.foldl (fun p q => (b.join .or p q).run) p
    return if t.operator = .not then (b.not any).run else any

theorem outcome?_alternative (b : Builder Id π) (lookup : Lookup) (value : Option String) (p : π)
    (field : String) : outcome? (b.alternative lookup value p field) =
      (outcome? (b.compare field lookup value)).map fun q => (b.join .or p q).run := by
  rw [alternative, outcome?_bind]
  cases outcome? (b.compare field lookup value) <;> rfl

theorem outcome?_alternatives (b : Builder Id π) (lookup : Lookup) (value : Option String)
    (fields : List String) (p : π) :
    outcome? (fields.foldlM (b.alternative lookup value) p) =
      (fields.mapM fun field => outcome? (b.compare field lookup value)).map fun ps =>
        ps.foldl (fun p q => (b.join .or p q).run) p := by
  induction fields generalizing p with
  | nil => rfl
  | cons field fields ih =>
    rw [List.foldlM_cons, outcome?_bind, outcome?_alternative, List.mapM_cons]
    cases outcome? (b.compare field lookup value) with
    | none => rfl
    | some q =>
      simp only [Option.map_some, Option.bind_some, ih]
      cases fields.mapM fun field => outcome? (b.compare field lookup value) <;> rfl

theorem outcome?_term (b : Builder Id π) (t : Term) : outcome? (b.term t) = b.condition? t := by
  cases lookupEq : t.lookup with
  | none =>
    rw [condition?, lookupEq]
    cases fields : t.fields with
    | nil => rw [b.term_noField fields]; rfl
    | cons first others => rw [b.term_noLookup (by simp [fields]) lookupEq]; rfl
  | some lookup =>
    rw [condition?, lookupEq]
    cases fields : t.fields with
    | nil => rw [b.term_noField fields]; rfl
    | cons first others =>
      rw [b.term_condition fields lookupEq]
      simp only [outcome?_bind, outcome?_alternatives, List.mapM_cons, Option.bind_eq_bind,
        Option.bind_some]
      cases outcome? (b.compare first lookup t.value) with
      | none => rfl
      | some p =>
        cases others.mapM fun field => outcome? (b.compare field lookup t.value) with
        | none => rfl
        | some ps => by_cases negated : t.operator = .not <;> simp [negated] <;> rfl

end Builder

namespace TermTree

variable {π : Type}

/-- The operations of a builder without effects folded over a tree, if every condition compiles. -/
def fold? (b : Builder Id π) : TermTree → Option π
  | always => some b.always.run
  | condition _ t => b.condition? t
  | join c left right => do
    let p ← left.fold? b
    let q ← right.fold? b
    return (b.join c p q).run

theorem outcome?_compile (b : Builder Id π) (tree : TermTree) :
    outcome? (tree.compile b) = tree.fold? b := by
  induction tree with
  | always => rfl
  | condition position t => rw [compile, outcome?_adapt, Builder.outcome?_term, fold?]
  | join c left right ihLeft ihRight =>
    simp only [compile, outcome?_bind, ihLeft, ihRight]
    rfl

theorem fold?_isSome (b : Builder Id π) (tree : TermTree)
    (compiles : ∀ p ∈ tree.conditions, ∃ q, b.condition? p.1 = some q) :
    ∃ p, tree.fold? b = some p := by
  induction tree with
  | always => exact ⟨_, rfl⟩
  | condition position t => exact compiles (t, position) (by simp [conditions])
  | join c left right ihLeft ihRight =>
    obtain ⟨p, leftEq⟩ := ihLeft fun q member => compiles q (by simp [conditions, member])
    obtain ⟨q, rightEq⟩ := ihRight fun q member => compiles q (by simp [conditions, member])
    exact ⟨(b.join c p q).run, by rw [fold?, leftEq, rightEq]; rfl⟩

end TermTree

/-- Terms whose live ones have balanced parentheses and whose live conditions all compile have one
result: the fold over the tree that the live terms read as. -/
theorem Builder.terms_eq_fold {π : Type} (b : Builder Id π) (ts : List Term)
    (balanced : Balance.Balanced (ts.filter Term.isLive))
    (compiles : ∀ t ∈ ts, t.isLive → t.isAtomic → ∃ p, b.term t = pure p) :
    ∃ tree p, TermTree.ofTerms? (ts.filter Term.isLive) = some tree ∧
      TermTree.Reads .disjunction (ts.filter Term.isLive).zipIdx tree [] ∧
      tree.fold? b = some p ∧ b.terms ts = pure p := by
  have allLive : ∀ t ∈ ts.filter Term.isLive, t.isLive := by
    intro t member
    exact (List.mem_filter.mp member).2
  obtain ⟨tree, read, reads, compiled⟩ :=
    b.liveTerms_of_balanced allLive ((Balance.check_eq_ok_iff _).mpr balanced)
  have conditionsCompile : ∀ p ∈ tree.conditions, ∃ q, b.condition? p.1 = some q := by
    intro p member
    have conditions := reads.conditions_append
    rw [List.filter_nil, List.append_nil] at conditions
    rw [conditions, List.mem_filter] at member
    obtain ⟨placed, atomic⟩ := member
    obtain ⟨inTerms, live⟩ := List.mem_filter.mp (List.fst_mem_of_mem_zipIdx placed)
    obtain ⟨q, termEq⟩ := compiles p.1 inTerms live atomic
    exact ⟨q, by rw [← b.outcome?_term, termEq, outcome?_pure]⟩
  obtain ⟨p, foldEq⟩ := tree.fold?_isSome b conditionsCompile
  refine ⟨tree, p, read, reads, foldEq, ?_⟩
  rw [← tree.outcome?_compile, outcome?_eq_some_iff] at foldEq
  rw [terms, compiled, foldEq]

/-- `a OR NOT (b or c) ( AND d )` and a deleted parenthesis: a mark left out, a place left empty. -/
def gappedTerms : List Term :=
  [{ fields := ["a"], lookup := some .equals, value := some "1" }, .control .or,
    { operator := .not, fields := ["b", "c"], lookup := some .contains, value := some "2" },
    (Term.control .closing).markDeleted, .control .opening, .control .and,
    { fields := ["d"], lookup := some .equals, value := some "3" }, .control .closing]

theorem Builder.terms_eq_fold_gapped :
    Balance.Balanced (gappedTerms.filter Term.isLive) ∧
      (∀ t ∈ gappedTerms, t.isLive → t.isAtomic → ∃ p, symbolicBuilder.term t = pure p) ∧
      ∃ tree p, TermTree.ofTerms? (gappedTerms.filter Term.isLive) = some tree ∧
        TermTree.Reads .disjunction (gappedTerms.filter Term.isLive).zipIdx tree [] ∧
        tree.fold? symbolicBuilder = some p ∧ symbolicBuilder.terms gappedTerms = pure p := by
  have balanced : Balance.Balanced (gappedTerms.filter Term.isLive) :=
    (Balance.check_eq_ok_iff _).mp rfl
  have compiles : ∀ t ∈ gappedTerms, t.isLive → t.isAtomic →
      ∃ p, symbolicBuilder.term t = pure p := by
    have allSome : ∀ t ∈ gappedTerms, t.isLive → t.isAtomic →
        (outcome? (symbolicBuilder.term t)).isSome := by decide
    intro t member live atomic
    obtain ⟨p, h⟩ := Option.isSome_iff_exists.mp (allSome t member live atomic)
    exact ⟨p, (outcome?_eq_some_iff _ p).mp h⟩
  exact ⟨balanced, compiles, symbolicBuilder.terms_eq_fold gappedTerms balanced compiles⟩

end SavedFilter
