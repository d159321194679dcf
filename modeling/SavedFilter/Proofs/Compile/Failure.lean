import SavedFilter.Proofs.Compile.Recording

/-! # The first failure

A builder without effects either gives a predicate or fails with one error, `cause?`. A computation
in several parts fails with the error of the first part that fails: a term with that of its first
field, and a tree with that of its first condition, at its position. So terms that all take part
fail with the error of their parentheses, or else with that of the first condition among them,
`cause?_liveTerms`. -/
set_option autoImplicit false
namespace SavedFilter

def cause? {ε α : Type} (x : ExceptT ε Id α) : Option ε := failure? x.run.run

section Cause

variable {ε ε' α β : Type}

theorem cause?_pure (a : α) : cause? (pure a : ExceptT ε Id α) = none := rfl

theorem cause?_lift (x : Id α) : cause? (liftM x : ExceptT ε Id α) = none := rfl

theorem cause?_adapt (f : ε → ε') (x : ExceptT ε Id α) :
    cause? (x.adapt f) = (cause? x).map f := by
  change failure? (Except.mapError f x.run.run) = (failure? x.run.run).map f
  cases x.run.run <;> rfl

theorem cause?_eq_none_iff (x : ExceptT ε Id α) : cause? x = none ↔ ∃ a, x = pure a := by
  constructor
  · intro h
    rw [cause?] at h
    cases run : x.run.run with
    | ok a => exact ⟨a, run⟩
    | error e => simp [run, failure?] at h
  · rintro ⟨a, rfl⟩
    rfl

theorem cause?_eq_some_iff (x : ExceptT ε Id α) (e : ε) : cause? x = some e ↔ x = throw e := by
  constructor
  · intro h
    rw [cause?] at h
    cases run : x.run.run with
    | ok a => simp [run, failure?] at h
    | error e' =>
      rw [run] at h
      cases Option.some.inj h
      exact run
  · rintro rfl
    rfl

/-- The second part is reached when the first does not fail; how it fails then must not depend on
what the first part gave. -/
theorem cause?_bind {x : ExceptT ε Id α} {f : α → ExceptT ε Id β} {later : Option ε}
    (next : ∀ a, cause? (f a) = later) : cause? (x >>= f) = (cause? x).or later := by
  cases failed : cause? x with
  | none =>
    obtain ⟨a, rfl⟩ := (cause?_eq_none_iff x).mp failed
    exact next a
  | some e =>
    obtain rfl := (cause?_eq_some_iff x e).mp failed
    rfl

end Cause

namespace Builder

variable {π : Type} (b : Builder Id π)

theorem cause?_alternatives (lookup : Lookup) (value : Option String) (fields : List String)
    (p : π) : cause? (fields.foldlM (b.alternative lookup value) p) =
      fields.findSome? fun field => cause? (b.compare field lookup value) := by
  induction fields generalizing p with
  | nil => rfl
  | cons field fields ih =>
    have one : cause? (b.alternative lookup value p field) =
        cause? (b.compare field lookup value) :=
      (cause?_bind fun q => cause?_lift _).trans Option.or_none
    rw [List.foldlM_cons, cause?_bind ih, one, List.findSome?_cons]
    cases cause? (b.compare field lookup value) <;> rfl

/-- An atomic term with a field and a lookup fails with the error of its first field that fails. -/
theorem cause?_term {t : Term} {lookup : Lookup} (fields : t.fields ≠ [])
    (lookupEq : t.lookup = some lookup) : cause? (b.term t) =
      t.fields.findSome? fun field => cause? (b.compare field lookup t.value) := by
  cases fieldsEq : t.fields with
  | nil => exact absurd fieldsEq fields
  | cons first others =>
    have negation : ∀ p, cause? (if t.operator = .not then liftM (b.not p) else pure p :
        ExceptT TermError Id π) = none := by
      intro p
      split <;> rfl
    have behindFirst : ∀ p, cause? (do
        let p ← others.foldlM (b.alternative lookup t.value) p
        if t.operator = .not then liftM (b.not p) else pure p) =
        others.findSome? fun field => cause? (b.compare field lookup t.value) := by
      intro p
      rw [cause?_bind negation, b.cause?_alternatives, Option.or_none]
    rw [b.term_condition fieldsEq lookupEq, List.findSome?_cons]
    refine (cause?_bind behindFirst).trans ?_
    cases cause? (b.compare first lookup t.value) <;> rfl

end Builder

section Compile

variable {π : Type} (b : Builder Id π)

theorem TermTree.cause?_compile (tree : TermTree) : cause? (tree.compile b) =
    tree.conditions.findSome? fun (t, n) => (cause? (b.term t)).map (CompileError.term n) := by
  induction tree with
  | always => rfl
  | condition position t =>
    simp only [compile, cause?_adapt, conditions, List.findSome?_cons]
    cases cause? (b.term t) <;> rfl
  | join c left right ihLeft ihRight =>
    rw [compile, conditions, List.findSome?_append, ← ihLeft, ← ihRight]
    exact cause?_bind fun p => (cause?_bind fun q => cause?_lift _).trans Option.or_none

/-- Terms that all take part fail with the error of their parentheses, or else with that of the
first condition among them that fails. -/
theorem Builder.cause?_liveTerms {live : List Term} (allLive : ∀ t ∈ live, t.isLive) :
    cause? (b.liveTerms live) =
      match Balance.check live with
      | .error cause => some (.structural cause)
      | .ok () => (live.zipIdx.filter (·.1.isAtomic)).findSome? fun (t, n) =>
          (cause? (b.term t)).map (CompileError.term n) := by
  cases checked : Balance.check live with
  | error cause =>
    rw [liveTerms, checked]
    rfl
  | ok _ =>
    obtain ⟨tree, _, reads, compiled⟩ := b.liveTerms_of_balanced allLive checked
    have conditions := reads.conditions_append
    rw [List.filter_nil, List.append_nil] at conditions
    rw [compiled, tree.cause?_compile, conditions]

end Compile

end SavedFilter
