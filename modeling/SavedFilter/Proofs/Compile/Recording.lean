import SavedFilter.Proofs.Compile.Fold

/-! # Recorded builders

Any builder can be made to keep a record of the uses that are made of it. The record changes
nothing: the fold with the recorded builder, its record forgotten, is the fold with the builder,
`forgets_compile`. What a computation records is stated for builders with any effects. `Ensures`
holds when all of its results satisfy a condition, and `Records` when all of its results, together
with the uses that it adds to the record, do. -/
set_option autoImplicit false
namespace SavedFilter

/-! ## Conditions on results -/

section Ensures

variable {m : Type → Type} [Monad m] {α β : Type} {post : α → Prop}

def Ensures (post : α → Prop) (x : m α) : Prop := ∃ y : m {a // post a}, Subtype.val <$> y = x

theorem ensures_id (x : Id α) : Ensures post x ↔ post x.run := by
  constructor
  · rintro ⟨y, rfl⟩
    exact y.run.property
  · intro h
    exact ⟨pure ⟨x.run, h⟩, rfl⟩

variable [LawfulMonad m]

theorem Ensures.pure {a : α} (h : post a) : Ensures post (pure a : m α) :=
  ⟨Pure.pure ⟨a, h⟩, by simp⟩

theorem Ensures.trivial (x : m α) : Ensures (fun _ => True) x :=
  ⟨(fun a => ⟨a, True.intro⟩) <$> x, by simp⟩

theorem Ensures.bind {after : β → Prop} {x : m α} {f : α → m β} (first : Ensures post x)
    (next : ∀ a, post a → Ensures after (f a)) : Ensures after (x >>= f) := by
  obtain ⟨y, rfl⟩ := first
  have chosen : ∀ a : {a // post a}, ∃ z : m {b // after b}, Subtype.val <$> z = f a.val :=
    fun a => next a.val a.property
  refine ⟨y >>= fun a => (chosen a).choose, ?_⟩
  rw [map_bind, bind_map_left]
  exact bind_congr fun a => (chosen a).choose_spec

theorem Ensures.mono {after : α → Prop} {x : m α} (h : Ensures post x)
    (weaker : ∀ a, post a → after a) : Ensures after x := by
  rw [← bind_pure x]
  exact h.bind fun a holds => Ensures.pure (weaker a holds)

end Ensures

/-! ## Recording -/

structure Comparison where
  field : String
  lookup : Lookup
  value : Option String
deriving DecidableEq

/-- One use of a builder; a comparison with the error that it failed with, if it failed. -/
inductive Use where
  | compare (c : Comparison) (failure : Option TermError)
  | not
  | join (c : Connective)
  | always
deriving DecidableEq

def failure? {ε α : Type} : Except ε α → Option ε
  | .ok _ => none
  | .error e => some e

section Builder

variable {m : Type → Type} [Monad m] {π : Type}

def noted {α : Type} (x : m α) (use : α → Use) : StateT (List Use) m α := fun uses => do
  let a ← x
  return (a, uses ++ [use a])

/-- The builder with a record of its uses, the first one first. -/
def Builder.recorded (b : Builder m π) : Builder (StateT (List Use) m) π where
  compare field lookup value := ExceptT.mk <|
    noted (b.compare field lookup value).run fun result =>
      .compare ⟨field, lookup, value⟩ (failure? result)
  not p := noted (b.not p) fun _ => .not
  join c p q := noted (b.join c p q) fun _ => .join c
  always := noted b.always fun _ => .always

end Builder

section Run

variable {m : Type → Type} [Monad m] {ε ε' α β : Type}

theorem run_bind_recorded (x : ExceptT ε (StateT (List Use) m) α)
    (f : α → ExceptT ε (StateT (List Use) m) β) (uses : List Use) :
    (x >>= f).run.run uses = (do
      let (result, uses) ← x.run.run uses
      match result with
      | .ok a => (f a).run.run uses
      | .error e => pure (.error e, uses)) := by
  rw [ExceptT.run_bind, StateT.run_bind]
  refine bind_congr fun (result, uses) => ?_
  cases result <;> rfl

variable [LawfulMonad m]

theorem run_adapt_recorded (f : ε → ε') (x : ExceptT ε (StateT (List Use) m) α)
    (uses : List Use) :
    (x.adapt f).run.run uses = (fun (result, uses) => (result.mapError f, uses)) <$>
      x.run.run uses := by
  change (Except.mapError f <$> x.run).run uses = _
  rw [StateT.run_map]

theorem run_lift_noted (x : m α) (use : α → Use) (uses : List Use) :
    (liftM (noted x use) : ExceptT ε (StateT (List Use) m) α).run.run uses = (do
      let a ← x
      return (.ok a, uses ++ [use a])) := by
  change (Except.ok <$> noted x use).run uses = _
  rw [StateT.run_map]
  simp [noted, StateT.run]

/-! ## Forgetting the record -/

def Forgets (x : ExceptT ε (StateT (List Use) m) α) (y : ExceptT ε m α) : Prop :=
  ∀ uses, Prod.fst <$> x.run.run uses = y.run

theorem Forgets.pure (a : α) : Forgets (m := m) (ε := ε) (Pure.pure a) (Pure.pure a) := by
  intro uses
  change Prod.fst <$> (Pure.pure (.ok a, uses) : m (Except ε α × List Use)) = Pure.pure (.ok a)
  rw [map_pure]

theorem Forgets.throw (e : ε) :
    Forgets (MonadExcept.throw e : ExceptT ε (StateT (List Use) m) α)
      (MonadExcept.throw e : ExceptT ε m α) := by
  intro uses
  change Prod.fst <$> (Pure.pure (.error e, uses) : m (Except ε α × List Use)) =
    Pure.pure (.error e)
  rw [map_pure]

theorem Forgets.bind {x : ExceptT ε (StateT (List Use) m) α} {y : ExceptT ε m α}
    {f : α → ExceptT ε (StateT (List Use) m) β} {g : α → ExceptT ε m β} (first : Forgets x y)
    (next : ∀ a, Forgets (f a) (g a)) : Forgets (x >>= f) (y >>= g) := by
  intro uses
  rw [run_bind_recorded, ExceptT.run_bind, ← first uses, map_bind, bind_map_left]
  refine bind_congr fun (result, uses) => ?_
  cases result with
  | ok a => exact next a uses
  | error e => exact map_pure _ _

theorem Forgets.adapt {x : ExceptT ε (StateT (List Use) m) α} {y : ExceptT ε m α} (f : ε → ε')
    (h : Forgets x y) : Forgets (x.adapt f) (y.adapt f) := by
  intro uses
  change _ = Except.mapError f <$> y.run
  rw [run_adapt_recorded, ← h uses, Functor.map_map, Functor.map_map]

theorem Forgets.lift_noted (x : m α) (use : α → Use) :
    Forgets (liftM (noted x use)) (liftM x : ExceptT ε m α) := by
  intro uses
  change _ = Except.ok <$> x
  rw [run_lift_noted]
  simp

/-! ## What a computation records -/

/-- Every result of the computation, with the uses that it adds to the record, satisfies `post`. -/
def Records (x : ExceptT ε (StateT (List Use) m) α) (post : Except ε α → List Use → Prop) :
    Prop :=
  ∀ uses, Ensures (fun (result, after) => ∃ new, after = uses ++ new ∧ post result new)
    (x.run.run uses)

theorem Records.pure {post : Except ε α → List Use → Prop} {a : α} (h : post (.ok a) []) :
    Records (m := m) (Pure.pure a) post := by
  intro uses
  exact Ensures.pure ⟨[], (List.append_nil uses).symm, h⟩

theorem Records.throw {post : Except ε α → List Use → Prop} {e : ε} (h : post (.error e) []) :
    Records (m := m) (MonadExcept.throw e) post := by
  intro uses
  exact Ensures.pure ⟨[], (List.append_nil uses).symm, h⟩

theorem Records.bind {x : ExceptT ε (StateT (List Use) m) α}
    {f : α → ExceptT ε (StateT (List Use) m) β} {post : Except ε α → List Use → Prop}
    {after : Except ε β → List Use → Prop} (first : Records x post)
    (next : ∀ a new, post (.ok a) new → Records (f a) fun result more => after result (new ++ more))
    (stop : ∀ e new, post (.error e) new → after (.error e) new) : Records (x >>= f) after := by
  intro uses
  rw [run_bind_recorded]
  refine (first uses).bind fun (result, uses') ⟨new, extended, holds⟩ => ?_
  subst extended
  cases result with
  | error e => exact Ensures.pure ⟨new, rfl, stop e new holds⟩
  | ok a =>
    refine (next a new holds (uses ++ new)).mono fun (result, uses'') ⟨more, extended, holds'⟩ => ?_
    exact ⟨new ++ more, by rw [extended, List.append_assoc], holds'⟩

theorem Records.adapt {x : ExceptT ε (StateT (List Use) m) α} {f : ε → ε'}
    {post : Except ε' α → List Use → Prop}
    (h : Records x fun result new => post (result.mapError f) new) : Records (x.adapt f) post := by
  intro uses
  rw [run_adapt_recorded, ← bind_pure_comp]
  exact (h uses).bind fun _ holds => Ensures.pure holds

theorem Records.lift_noted {x : m α} {use : α → Use} {post : Except ε α → List Use → Prop}
    (h : ∀ a, post (.ok a) [use a]) : Records (m := m) (liftM (noted x use)) post := by
  intro uses
  rw [run_lift_noted]
  exact (Ensures.trivial x).bind fun a _ => Ensures.pure ⟨[use a], rfl, h a⟩

end Run

section Recorded

variable {m : Type → Type} [Monad m] [LawfulMonad m] {π : Type} (b : Builder m π)

theorem forgets_compare (field : String) (lookup : Lookup) (value : Option String) :
    Forgets (b.recorded.compare field lookup value) (b.compare field lookup value) := by
  intro uses
  change Prod.fst <$> (noted (b.compare field lookup value).run _).run uses = _
  simp [noted, StateT.run]

theorem records_compare {field : String} {lookup : Lookup} {value : Option String}
    {post : Except TermError π → List Use → Prop}
    (h : ∀ result, post result [.compare ⟨field, lookup, value⟩ (failure? result)]) :
    Records (b.recorded.compare field lookup value) post := by
  intro uses
  exact (Ensures.trivial (b.compare field lookup value).run).bind fun result _ =>
    Ensures.pure ⟨_, rfl, h result⟩

theorem forgets_alternatives (lookup : Lookup) (value : Option String) (fields : List String)
    (p : π) : Forgets (fields.foldlM (b.recorded.alternative lookup value) p)
      (fields.foldlM (b.alternative lookup value) p) := by
  induction fields generalizing p with
  | nil => exact .pure p
  | cons field fields ih =>
    rw [List.foldlM_cons, List.foldlM_cons]
    refine .bind ?_ ih
    exact .bind (forgets_compare b field lookup value) fun q => .lift_noted _ _

theorem forgets_term (t : Term) : Forgets (b.recorded.term t) (b.term t) := by
  cases fields : t.fields with
  | nil =>
    rw [b.term_noField fields, b.recorded.term_noField fields]
    exact .throw _
  | cons first others =>
    cases lookupEq : t.lookup with
    | none =>
      have someField : t.fields ≠ [] := by simp [fields]
      rw [b.term_noLookup someField lookupEq, b.recorded.term_noLookup someField lookupEq]
      exact .throw _
    | some lookup =>
      rw [b.term_condition fields lookupEq, b.recorded.term_condition fields lookupEq]
      refine .bind (forgets_compare b first lookup t.value) fun p => ?_
      refine .bind (forgets_alternatives b lookup t.value others p) fun q => ?_
      by_cases negated : t.operator = .not
      · rw [if_pos negated, if_pos negated]
        exact .lift_noted _ _
      · rw [if_neg negated, if_neg negated]
        exact .pure q

theorem forgets_compile (tree : TermTree) :
    Forgets (tree.compile b.recorded) (tree.compile b) := by
  induction tree with
  | always => exact .lift_noted _ _
  | condition position t => exact .adapt _ (forgets_term b t)
  | join c left right ihLeft ihRight =>
    exact .bind ihLeft fun p => .bind ihRight fun q => .lift_noted _ _

end Recorded

end SavedFilter
