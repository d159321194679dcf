import SavedFilter.Proofs.Compile.Fold

/-! # Values of terms

A builder gives predicates to the comparisons of a term. A valuation gives a value to the term as
a whole and does not see where the term stands, so the value of a tree has no positions: it is what
compiling the tree gives, positions aside, `compile_unplaced`.

Two lists of terms can be compared by their values though their terms stand at different positions.
They compile alike, positions aside, when the checks of their parentheses agree and their trees have
one value, `Builder.terms_alike`. -/
set_option autoImplicit false
namespace SavedFilter

/-! ## Errors without positions -/

/-- The error with the position that it has for the first term. -/
def StructureError.unplaced : StructureError → StructureError
  | unmatchedClosing _ => unmatchedClosing 0
  | unclosedOpening depth => unclosedOpening depth

def CompileError.unplaced : CompileError → CompileError
  | structural cause => structural cause.unplaced
  | term _ cause => term 0 cause
  | stack fault => stack fault

namespace Balance

/-- How many parentheses are open behind a term, unless it closes one that is not open. -/
def depthAfter (depth : Nat) (t : Term) : Option Nat :=
  if t.deleted then some depth
  else
    match t.operator with
    | .opening => some (depth + 1)
    | .closing =>
      match depth with
      | 0 => none
      | depth + 1 => some depth
    | _ => some depth

theorem checkFrom_cons (depth position : Nat) (t : Term) (ts : List Term) :
    checkFrom depth position (t :: ts) =
      match depthAfter depth t with
      | some depth => checkFrom depth (position + 1) ts
      | none => .error (.unmatchedClosing position) := by
  rw [checkFrom.eq_def]
  cases deleted : t.deleted with
  | true => simp [depthAfter, deleted]
  | false => cases operator : t.operator <;> cases depth <;> simp [depthAfter, deleted, operator]

theorem depthAfter_other {t : Term} (h : t.operator ≠ .opening ∧ t.operator ≠ .closing)
    (depth : Nat) : depthAfter depth t = some depth := by
  cases operator : t.operator <;> simp_all [depthAfter]

/-- What the check of terms finds with a number of parentheses open, positions aside. -/
def verdict (depth : Nat) (ts : List Term) : Except StructureError Unit :=
  (checkFrom depth 0 ts).mapError StructureError.unplaced

theorem checkFrom_unplaced (depth position : Nat) (ts : List Term) :
    (checkFrom depth position ts).mapError StructureError.unplaced = verdict depth ts := by
  rw [verdict]
  generalize 0 = start
  induction ts generalizing depth position start with
  | nil => rfl
  | cons t ts ih =>
    rw [checkFrom_cons, checkFrom_cons]
    cases depthAfter depth t with
    | none => rfl
    | some depth => exact ih depth (position + 1) (start + 1)

theorem verdict_cons (depth : Nat) (t : Term) (ts : List Term) :
    verdict depth (t :: ts) =
      match depthAfter depth t with
      | some depth => verdict depth ts
      | none => .error (.unmatchedClosing 0) := by
  rw [verdict, checkFrom_cons]
  cases depthAfter depth t with
  | none => rfl
  | some depth => exact checkFrom_unplaced depth 1 ts

/-- Terms are checked from the left: two endings are told apart only by what they find. -/
theorem verdict_append {ts ts' : List Term} (same : ∀ depth, verdict depth ts = verdict depth ts')
    (front : List Term) (depth : Nat) :
    verdict depth (front ++ ts) = verdict depth (front ++ ts') := by
  induction front generalizing depth with
  | nil => exact same depth
  | cons t front ih =>
    rw [List.cons_append, List.cons_append, verdict_cons, verdict_cons]
    cases depthAfter depth t with
    | none => rfl
    | some depth => exact ih depth

/-- Terms that are no parentheses leave the check as it is. -/
theorem verdict_others {inner : List Term}
    (h : ∀ t ∈ inner, t.operator ≠ .opening ∧ t.operator ≠ .closing) (depth : Nat)
    (ts : List Term) : verdict depth (inner ++ ts) = verdict depth ts := by
  induction inner with
  | nil => rfl
  | cons t inner ih =>
    rw [List.cons_append, verdict_cons, depthAfter_other (h t List.mem_cons_self)]
    exact ih fun u member => h u (List.mem_cons_of_mem t member)

/-- A pair of parentheses around other terms leaves the check as it is. -/
theorem verdict_group {first last : Term} {inner : List Term} (opening : first.operator = .opening)
    (closing : last.operator = .closing) (live : first.isLive) (lastLive : last.isLive)
    (h : ∀ t ∈ inner, t.operator ≠ .opening ∧ t.operator ≠ .closing) (depth : Nat)
    (ts : List Term) : verdict depth (first :: inner ++ last :: ts) = verdict depth ts := by
  have opens : depthAfter depth first = some (depth + 1) := by
    simp_all [depthAfter, Term.isLive]
  have closes : depthAfter (depth + 1) last = some depth := by
    simp_all [depthAfter, Term.isLive]
  rw [List.cons_append, verdict_cons, opens]
  change verdict (depth + 1) (inner ++ last :: ts) = _
  rw [verdict_others h, verdict_cons, closes]

end Balance

/-! ## Computations with other errors -/

section Adapt

variable {m : Type → Type} [Monad m] [LawfulMonad m] {ε ε' ε'' α β : Type}

theorem adapt_bind (g : ε → ε') (x : ExceptT ε m α) (f : α → ExceptT ε m β) :
    (x >>= f).adapt g = x.adapt g >>= fun a => (f a).adapt g := by
  apply ExceptT.ext
  change Except.mapError g <$> (x >>= f).run = ((Except.mapError g <$> x.run : m _) >>= _)
  rw [ExceptT.run_bind, map_bind, bind_map_left]
  refine bind_congr fun result => ?_
  cases result with
  | ok a => rfl
  | error e => exact map_pure _ _

theorem adapt_throw (g : ε → ε') (e : ε) :
    (throw e : ExceptT ε m α).adapt g = throw (g e) := by
  apply ExceptT.ext
  exact map_pure _ _

theorem adapt_lift (g : ε → ε') (x : m α) :
    (liftM x : ExceptT ε m α).adapt g = liftM x := by
  apply ExceptT.ext
  change Except.mapError g <$> (Except.ok <$> x) = Except.ok <$> x
  rw [Functor.map_map]
  rfl

theorem adapt_adapt (g : ε → ε') (g' : ε' → ε'') (x : ExceptT ε m α) :
    (x.adapt g).adapt g' = x.adapt (g' ∘ g) := by
  apply ExceptT.ext
  change Except.mapError g' <$> (Except.mapError g <$> x.run) = Except.mapError (g' ∘ g) <$> x.run
  rw [Functor.map_map]
  congr 1
  funext result
  cases result <;> rfl

theorem map_adapt (g : ε → ε') (f : α → β) (x : ExceptT ε m α) :
    f <$> x.adapt g = (f <$> x).adapt g := by
  apply ExceptT.ext
  rw [ExceptT.run_map]
  change Except.map f <$> (Except.mapError g <$> x.run) = Except.mapError g <$> (f <$> x).run
  rw [ExceptT.run_map, Functor.map_map, Functor.map_map]
  congr 1
  funext result
  cases result <;> rfl

end Adapt

/-! ## Valuations -/

/-- Values `α` of whole terms, and the ways to combine them. -/
structure Valuation (m : Type → Type) (α : Type) where
  term : Term → ExceptT TermError m α
  join : Connective → α → α → m α
  always : m α

section Valuation

variable {m : Type → Type} [Monad m] {π α : Type}

def TermTree.value (v : Valuation m α) : TermTree → ExceptT TermError m α
  | always => v.always
  | condition _ t => v.term t
  | join c left right => do
    let p ← left.value v
    let q ← right.value v
    v.join c p q

def Builder.valuation (b : Builder m π) : Valuation m π := ⟨b.term, b.join, b.always⟩

variable [LawfulMonad m]

/-- Compiling a tree gives its value, positions aside. -/
theorem TermTree.compile_unplaced (b : Builder m π) (tree : TermTree) :
    (tree.compile b).adapt CompileError.unplaced =
      (tree.value b.valuation).adapt (CompileError.term 0) := by
  induction tree with
  | always => exact (adapt_lift _ _).trans (adapt_lift _ _).symm
  | condition position t => exact adapt_adapt _ _ _
  | join c left right ihLeft ihRight =>
    simp only [compile, value, adapt_bind, ihLeft, ihRight, adapt_lift]
    rfl

theorem Builder.liveTerms_refused (b : Builder m π) {live : List Term} {cause : StructureError}
    (checked : Balance.check live = .error cause) :
    (b.liveTerms live).adapt CompileError.unplaced = throw (.structural cause.unplaced) := by
  rw [liveTerms, checked]
  exact adapt_throw _ _

/-- Live terms whose parentheses pass the check have a tree. -/
theorem TermTree.reads_of_check (ts : List Term)
    (balanced : Balance.check (ts.filter Term.isLive) = .ok ()) :
    ∃ tree, Reads .disjunction (ts.filter Term.isLive).zipIdx tree [] := by
  have allLive : ∀ t ∈ ts.filter Term.isLive, t.isLive := by
    intro t member
    exact (List.mem_filter.mp member).2
  obtain ⟨tree, _, reads⟩ :=
    ofTerms?_of_balanced allLive ((Balance.check_eq_ok_iff _).mp balanced)
  exact ⟨tree, reads⟩

/-- Terms compile alike, positions aside, when they are refused alike for their parentheses, and
otherwise have trees of one value. Predicates may be compared by what is made of them. -/
theorem Builder.terms_alike (b : Builder m π) (f : π → α) {ts ts' : List Term}
    (checked : Balance.verdict 0 (ts.filter Term.isLive) =
      Balance.verdict 0 (ts'.filter Term.isLive))
    (read : Balance.check (ts'.filter Term.isLive) = .ok () → ∀ tree,
      TermTree.Reads .disjunction (ts.filter Term.isLive).zipIdx tree [] →
        ∃ tree', TermTree.Reads .disjunction (ts'.filter Term.isLive).zipIdx tree' [] ∧
          f <$> tree.value b.valuation = f <$> tree'.value b.valuation) :
    f <$> (b.terms ts).adapt CompileError.unplaced =
      f <$> (b.terms ts').adapt CompileError.unplaced := by
  rw [Balance.verdict, Balance.verdict, ← Balance.check, ← Balance.check] at checked
  rw [terms, terms]
  cases first : Balance.check (ts.filter Term.isLive) with
  | error cause =>
    cases second : Balance.check (ts'.filter Term.isLive) with
    | ok _ =>
      rw [first, second] at checked
      cases checked
    | error cause' =>
      rw [first, second] at checked
      have same : cause.unplaced = cause'.unplaced := Except.error.inj checked
      rw [b.liveTerms_refused first, b.liveTerms_refused second, same]
  | ok _ =>
    cases second : Balance.check (ts'.filter Term.isLive) with
    | error cause =>
      rw [first, second] at checked
      cases checked
    | ok _ =>
      obtain ⟨tree, reads⟩ := TermTree.reads_of_check ts first
      obtain ⟨tree', reads', same⟩ := read second tree reads
      rw [b.liveTerms_of_reads first reads, b.liveTerms_of_reads second reads',
        tree.compile_unplaced, tree'.compile_unplaced, map_adapt, map_adapt, same]

end Valuation

end SavedFilter
