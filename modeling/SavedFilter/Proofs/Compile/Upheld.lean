import SavedFilter.Proofs.Compile.Recording

/-! # What builders uphold

A builder upholds a condition on predicates if its comparisons give only predicates that satisfy it
and its operations keep it. Then each step of a program keeps it on the whole stack, `Upholds.step`,
and so whatever a program or a list of terms gives satisfies it, `Upholds.terms`. Nothing is asked
of the order of the tokens. -/
set_option autoImplicit false
namespace SavedFilter

/-! ## Conditions on values -/

section Yields

variable {m : Type → Type} [Monad m] {ε ε' α β : Type} {post : α → Prop}

/-- Every value that the computation gives satisfies the condition; it may fail. -/
def Yields (post : α → Prop) (x : ExceptT ε m α) : Prop :=
  Ensures (fun result => ∀ a, result = .ok a → post a) x.run

theorem yields_id (x : ExceptT ε Id α) : Yields post x ↔ ∀ a, x = pure a → post a :=
  ensures_id x.run

variable [LawfulMonad m]

theorem Yields.pure {a : α} (h : post a) : Yields post (Pure.pure a : ExceptT ε m α) := by
  refine Ensures.pure fun b same => ?_
  obtain rfl := Except.ok.inj same
  exact h

theorem Yields.throw (e : ε) : Yields post (MonadExcept.throw e : ExceptT ε m α) :=
  Ensures.pure fun _ same => by cases same

theorem Yields.bind {after : β → Prop} {x : ExceptT ε m α} {f : α → ExceptT ε m β}
    (first : Yields post x) (next : ∀ a, post a → Yields after (f a)) :
    Yields after (x >>= f) := by
  rw [Yields, ExceptT.run_bind]
  refine Ensures.bind first fun result holds => ?_
  cases result with
  | ok a => exact next a (holds a rfl)
  | error e => exact Ensures.pure fun _ same => by cases same

theorem Yields.lift {x : m α} (h : Ensures post x) : Yields post (liftM x : ExceptT ε m α) := by
  change Ensures _ (Except.ok <$> x)
  rw [← bind_pure_comp]
  refine h.bind fun a holds => Ensures.pure fun b same => ?_
  obtain rfl := Except.ok.inj same
  exact holds

theorem Yields.adapt {x : ExceptT ε m α} (f : ε → ε') (h : Yields post x) :
    Yields post (x.adapt f) := by
  change Ensures _ (Except.mapError f <$> x.run)
  rw [← bind_pure_comp]
  refine Ensures.bind h fun result holds => Ensures.pure fun a same => ?_
  cases result with
  | ok b =>
    obtain rfl := Except.ok.inj same
    exact holds b rfl
  | error e => cases same

end Yields

/-! ## Builders -/

section Builder

variable {m : Type → Type} [Monad m] {π : Type}

/-- The builder gives predicates that satisfy the condition, from others that do. -/
structure Builder.Upholds (b : Builder m π) (post : π → Prop) : Prop where
  compare : ∀ field lookup value, Yields post (b.compare field lookup value)
  not : ∀ p, post p → Ensures post (b.not p)
  join : ∀ c p q, post p → post q → Ensures post (b.join c p q)
  always : Ensures post b.always

namespace Builder.Upholds

variable [LawfulMonad m] {b : Builder m π} {post : π → Prop}

theorem alternatives (upholds : b.Upholds post) (lookup : Lookup) (value : Option String)
    (fields : List String) {p : π} (holds : post p) :
    Yields post (fields.foldlM (b.alternative lookup value) p) := by
  induction fields generalizing p with
  | nil => exact Yields.pure holds
  | cons field fields ih =>
    rw [List.foldlM_cons]
    have one : Yields post (b.alternative lookup value p field) :=
      (upholds.compare field lookup value).bind fun q compared =>
        Yields.lift (upholds.join .or p q holds compared)
    exact one.bind fun _ joined => ih joined

theorem term (upholds : b.Upholds post) (t : Term) : Yields post (b.term t) := by
  cases fields : t.fields with
  | nil =>
    rw [b.term_noField fields]
    exact Yields.throw _
  | cons first others =>
    cases lookupEq : t.lookup with
    | none =>
      rw [b.term_noLookup (by simp [fields]) lookupEq]
      exact Yields.throw _
    | some lookup =>
      rw [b.term_condition fields lookupEq]
      refine (upholds.compare first lookup t.value).bind fun p compared => ?_
      refine (upholds.alternatives lookup t.value others compared).bind fun q joined => ?_
      split
      · exact Yields.lift (upholds.not q joined)
      · exact Yields.pure joined

/-- One step keeps the condition on all of the stack. -/
theorem step (upholds : b.Upholds post) {stack : List π} (all : ∀ p ∈ stack, post p) (s : Step) :
    Yields (fun after => ∀ p ∈ after, post p) (b.step stack s) := by
  have push {below : List π} (all : ∀ p ∈ below, post p) {x : ExceptT CompileError m π}
      (given : Yields post x) :
      Yields (fun after => ∀ p ∈ after, post p) (x >>= fun p => Pure.pure (p :: below)) :=
    given.bind fun p holds => Yields.pure (List.forall_mem_cons.mpr ⟨holds, all⟩)
  cases s with
  | operand position t => exact push all ((upholds.term t).adapt _)
  | apply o =>
    cases o with
    | always => exact push all (Yields.lift upholds.always)
    | join c =>
      match stack with
      | [] => exact Yields.throw _
      | [_] => exact Yields.throw _
      | right :: left :: below =>
        obtain ⟨rightHolds, leftHolds, all⟩ :
            post right ∧ post left ∧ ∀ p ∈ below, post p := by
          simpa using all
        exact push all (Yields.lift (upholds.join c left right leftHolds rightHolds))
  | fail cause => exact Yields.throw _

theorem foldlM_step (upholds : b.Upholds post) (program : List Step) {stack : List π}
    (all : ∀ p ∈ stack, post p) :
    Yields (fun after => ∀ p ∈ after, post p) (program.foldlM b.step stack) := by
  induction program generalizing stack with
  | nil => exact Yields.pure all
  | cons s program ih =>
    rw [List.foldlM_cons]
    exact (upholds.step all s).bind fun _ kept => ih kept

theorem run (upholds : b.Upholds post) (program : List Step) : Yields post (b.run program) := by
  refine (upholds.foldlM_step program (List.forall_mem_nil _)).bind fun stack all => ?_
  match stack with
  | [] => exact Yields.throw _
  | [p] => exact Yields.pure (all p List.mem_cons_self)
  | _ :: _ :: _ => exact Yields.throw _

theorem terms (upholds : b.Upholds post) (ts : List Term) : Yields post (b.terms ts) := by
  rw [Builder.terms, liveTerms]
  cases Balance.check (ts.filter Term.isLive) with
  | error cause => exact Yields.throw _
  | ok _ => exact upholds.run _

end Builder.Upholds

end Builder

end SavedFilter
