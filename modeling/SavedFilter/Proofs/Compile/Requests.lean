import SavedFilter.Condition.Build
import SavedFilter.Proofs.Compile.Recording

/-! # The comparisons of a compilation

The atomic terms that take part, in order, request comparisons, one for each field; a term without
a field or without a lookup requests nothing and is refused. Compilation answers the requests one
after the other, and stops at the first comparison that fails or term that is refused, with the
error and the position of the term. Nothing else can go wrong once the parentheses match, and
before they do no use is made of the builder: `terms_answered`. -/
set_option autoImplicit false
namespace SavedFilter

/-! ## Requests -/

inductive CompileRequest where
  | compare (position : Nat) (c : Comparison)
  | refuse (position : Nat) (cause : TermError)
deriving DecidableEq

def Term.requests (position : Nat) (t : Term) : List CompileRequest :=
  match t.fields, t.lookup with
  | [], _ => [.refuse position .noField]
  | _ :: _, none => [.refuse position .noLookup]
  | fields, some lookup => fields.map fun field => .compare position ⟨field, lookup, t.value⟩

def requests (live : List Term) : List CompileRequest :=
  (live.zipIdx.filter (·.1.isAtomic)).flatMap fun (t, position) => t.requests position

def Use.comparison? : Use → Option (Comparison × Option TermError)
  | compare c failure => some (c, failure)
  | _ => none

def comparisons (uses : List Use) : List (Comparison × Option TermError) :=
  uses.filterMap Use.comparison?

/-- `Answered rs cs stop`: the comparisons `cs` are those that `rs` requests, up to the first that
fails or up to the first term that is refused; `stop` is the position and the error there. -/
inductive Answered : List CompileRequest → List (Comparison × Option TermError) →
    Option (Nat × TermError) → Prop where
  | all : Answered [] [] none
  | passed {position : Nat} {c : Comparison} {rs : List CompileRequest}
      {cs : List (Comparison × Option TermError)} {stop : Option (Nat × TermError)}
      (later : Answered rs cs stop) :
      Answered (.compare position c :: rs) ((c, none) :: cs) stop
  | failed {position : Nat} {c : Comparison} {cause : TermError} {rs : List CompileRequest} :
      Answered (.compare position c :: rs) [(c, some cause)] (some (position, cause))
  | refused {position : Nat} {cause : TermError} {rs : List CompileRequest} :
      Answered (.refuse position cause :: rs) [] (some (position, cause))

theorem Answered.append {rs rs' : List CompileRequest}
    {cs cs' : List (Comparison × Option TermError)}
    {stop stop' : Option (Nat × TermError)} (first : Answered rs cs stop) (passed : stop = none)
    (later : Answered rs' cs' stop') : Answered (rs ++ rs') (cs ++ cs') stop' := by
  induction first with
  | all => exact later
  | passed _ ih => exact .passed (ih passed)
  | failed => cases passed
  | refused => cases passed

theorem Answered.append_of_stop {rs : List CompileRequest}
    {cs : List (Comparison × Option TermError)}
    {stop : Option (Nat × TermError)} (first : Answered rs cs stop) (stopped : stop ≠ none)
    (rs' : List CompileRequest) : Answered (rs ++ rs') cs stop := by
  induction first with
  | all => exact absurd rfl stopped
  | passed _ ih => exact .passed (ih stopped)
  | failed => exact .failed
  | refused => exact .refused

/-! ## Compilation answers the requests -/

/-- A result is that of answering the requests, where `raise` makes of an error what is raised. -/
def Answers {ε α : Type} (raise : ε → CompileError) (rs : List CompileRequest) (result : Except ε α)
    (uses : List Use) : Prop :=
  ∃ stop, Answered rs (comparisons uses) stop ∧
    match stop with
    | none => ∃ a, result = .ok a
    | some (position, cause) => ∃ e, result = .error e ∧ raise e = .term position cause

section Records

variable {m : Type → Type} [Monad m] [LawfulMonad m] {π ε α β : Type} {raise : ε → CompileError}

theorem Records.append {x : ExceptT ε (StateT (List Use) m) α}
    {f : α → ExceptT ε (StateT (List Use) m) β} {rs rs' : List CompileRequest}
    (first : Records x (Answers raise rs)) (next : ∀ a, Records (f a) (Answers raise rs')) :
    Records (x >>= f) (Answers raise (rs ++ rs')) := by
  refine first.bind (fun a new ⟨stop, answered, outcome⟩ => ?_)
    fun e new ⟨stop, answered, outcome⟩ => ?_
  · cases stop with
    | some stopped =>
      obtain ⟨e, impossible, _⟩ := outcome
      cases impossible
    | none =>
      intro uses
      refine (next a uses).mono fun _ ⟨more, extended, stop', answered', outcome'⟩ => ?_
      refine ⟨more, extended, stop', ?_, outcome'⟩
      rw [comparisons, List.filterMap_append]
      exact answered.append rfl answered'
  · cases stop with
    | none =>
      obtain ⟨a, impossible⟩ := outcome
      cases impossible
    | some stopped =>
      obtain ⟨e', same, raised⟩ := outcome
      cases same
      exact ⟨some stopped, answered.append_of_stop (by simp) rs', e, rfl, raised⟩

theorem records_pure (a : α) : Records (m := m) (pure a) (Answers raise []) :=
  .pure ⟨none, .all, a, rfl⟩

theorem records_lift {x : m α} {use : α → Use} (h : ∀ a, (use a).comparison? = none) :
    Records (m := m) (liftM (noted x use)) (Answers raise []) := by
  refine .lift_noted fun a => ⟨none, ?_, a, rfl⟩
  rw [comparisons, List.filterMap_cons_none (h a)]
  exact .all

variable (b : Builder m π) (position : Nat)

theorem records_refusal (cause : TermError) : Records (m := m) (α := α) (throw cause)
    (Answers (CompileError.term position) [.refuse position cause]) :=
  .throw ⟨some (position, cause), .refused, cause, rfl, rfl⟩

theorem records_comparison (field : String) (lookup : Lookup) (value : Option String) :
    Records (b.recorded.compare field lookup value)
      (Answers (CompileError.term position) [.compare position ⟨field, lookup, value⟩]) := by
  refine records_compare b fun result => ?_
  cases result with
  | ok p => exact ⟨none, .passed .all, p, rfl⟩
  | error cause => exact ⟨some (position, cause), .failed, cause, rfl, rfl⟩

theorem records_alternatives (lookup : Lookup) (value : Option String) (fields : List String)
    (p : π) : Records (fields.foldlM (b.recorded.alternative lookup value) p)
      (Answers (CompileError.term position)
        (fields.map fun field => .compare position ⟨field, lookup, value⟩)) := by
  induction fields generalizing p with
  | nil => exact records_pure p
  | cons field fields ih =>
    rw [List.foldlM_cons]
    have one : Records (b.recorded.alternative lookup value p field)
        (Answers (CompileError.term position) ([.compare position ⟨field, lookup, value⟩] ++ [])) :=
      (records_comparison b position field lookup value).append fun q => records_lift fun _ => rfl
    exact one.append ih

theorem records_term (t : Term) :
    Records (b.recorded.term t) (Answers (CompileError.term position) (t.requests position)) := by
  cases fields : t.fields with
  | nil =>
    rw [b.recorded.term_noField fields, Term.requests, fields]
    exact records_refusal position .noField
  | cons first others =>
    cases lookupEq : t.lookup with
    | none =>
      rw [b.recorded.term_noLookup (by simp [fields]) lookupEq, Term.requests, fields, lookupEq]
      exact records_refusal position .noLookup
    | some lookup =>
      rw [b.recorded.term_condition fields lookupEq, Term.requests, fields, lookupEq]
      have negation : ∀ p, Records (m := m)
          (if t.operator = .not then liftM (b.recorded.not p) else pure p)
          (Answers (CompileError.term position) []) := by
        intro p
        by_cases negated : t.operator = .not
        · rw [if_pos negated]
          exact records_lift fun _ => rfl
        · rw [if_neg negated]
          exact records_pure p
      have all := (records_comparison b position first lookup t.value).append fun p =>
        (records_alternatives b position lookup t.value others p).append negation
      rwa [List.append_nil] at all

theorem records_compile (tree : TermTree) :
    Records (tree.compile b.recorded)
      (Answers id (tree.conditions.flatMap fun (t, position) => t.requests position)) := by
  induction tree with
  | always => exact records_lift fun _ => rfl
  | condition position t =>
    refine .adapt fun uses => ?_
    refine (records_term b position t uses).mono fun (result, _) holds => ?_
    obtain ⟨new, extended, stop, answered, outcome⟩ := holds
    refine ⟨new, extended, stop, by simpa [TermTree.conditions] using answered, ?_⟩
    cases stop with
    | none =>
      obtain ⟨p, rfl⟩ := outcome
      exact ⟨p, rfl⟩
    | some stopped =>
      obtain ⟨e, rfl, raised⟩ := outcome
      exact ⟨_, rfl, raised⟩
  | join c left right ihLeft ihRight =>
    have joined : ∀ p q, Records (m := m) (liftM (b.recorded.join c p q)) (Answers id []) := by
      intro p q
      exact records_lift fun _ => rfl
    have all := ihLeft.append fun p => ihRight.append fun q => joined p q
    rw [List.append_nil, ← List.flatMap_append] at all
    exact all

end Records

/-! ## Compilation -/

section Terms

variable {m : Type → Type} [Monad m] {π : Type}

theorem Builder.terms_unbalanced (b : Builder m π) {ts : List Term} {cause : StructureError}
    (unbalanced : Balance.check (ts.filter Term.isLive) = .error cause) :
    b.terms ts = throw (.structural cause) := by
  rw [terms, liveTerms, unbalanced]

variable [LawfulMonad m]

/-- Live terms with balanced parentheses compile to one tree of the live conditions, with any
builder and with a record of its uses. -/
theorem Builder.terms_of_balanced (b : Builder m π) {ts : List Term}
    (balanced : Balance.check (ts.filter Term.isLive) = .ok ()) :
    ∃ tree : TermTree,
      tree.conditions = (ts.filter Term.isLive).zipIdx.filter (·.1.isAtomic) ∧
      b.terms ts = tree.compile b ∧ b.recorded.terms ts = tree.compile b.recorded := by
  have allLive : ∀ t ∈ ts.filter Term.isLive, t.isLive := by
    intro t member
    exact (List.mem_filter.mp member).2
  obtain ⟨tree, read, reads, compiled⟩ := b.liveTerms_of_balanced allLive balanced
  obtain ⟨tree', read', _, recorded⟩ := b.recorded.liveTerms_of_balanced allLive balanced
  obtain rfl : tree = tree' := Option.some.inj (read.symm.trans read')
  have conditions := reads.conditions_append
  rw [List.filter_nil, List.append_nil] at conditions
  exact ⟨tree, conditions, compiled, recorded⟩

theorem Builder.terms_forgets (b : Builder m π) (ts : List Term) :
    Forgets (b.recorded.terms ts) (b.terms ts) := by
  cases checked : Balance.check (ts.filter Term.isLive) with
  | error cause =>
    rw [b.terms_unbalanced checked, b.recorded.terms_unbalanced checked]
    exact .throw _
  | ok _ =>
    obtain ⟨tree, _, compiled, recorded⟩ := b.terms_of_balanced checked
    rw [compiled, recorded]
    exact forgets_compile b tree

/-- Terms whose live ones are not balanced are refused before any use is made of the builder.
Otherwise the requests of the live terms are answered in order, and compilation fails exactly when
one of them does, with its error and its position among the live terms. No stack fault is seen. -/
theorem Builder.terms_answered (b : Builder m π) (ts : List Term) :
    Prod.fst <$> (b.recorded.terms ts).run.run [] = (b.terms ts).run ∧
    (match Balance.check (ts.filter Term.isLive) with
      | .error cause =>
        (b.recorded.terms ts).run.run [] = pure (.error (.structural cause), [])
      | .ok () => Ensures (fun (result, uses) => ∃ stop,
          Answered (requests (ts.filter Term.isLive)) (comparisons uses) stop ∧
            match stop with
            | none => ∃ p, result = .ok p
            | some (position, cause) => result = .error (.term position cause))
          ((b.recorded.terms ts).run.run [])) ∧
    Ensures (fun result => ∀ fault, result ≠ .error (.stack fault)) (b.terms ts).run := by
  have forgets := b.terms_forgets ts []
  cases checked : Balance.check (ts.filter Term.isLive) with
  | error cause =>
    refine ⟨forgets, ?_, ?_⟩
    · rw [b.recorded.terms_unbalanced checked]
      rfl
    · rw [b.terms_unbalanced checked]
      exact Ensures.pure fun fault => by simp
  | ok _ =>
    obtain ⟨tree, conditions, _, recorded⟩ := b.terms_of_balanced checked
    have answers := records_compile b tree []
    rw [conditions, ← recorded] at answers
    have answered : Ensures (fun (result, uses) => ∃ stop,
        Answered (requests (ts.filter Term.isLive)) (comparisons uses) stop ∧
          match stop with
          | none => ∃ p, result = .ok p
          | some (position, cause) => result = .error (.term position cause))
        ((b.recorded.terms ts).run.run []) := by
      refine answers.mono fun (result, uses) ⟨new, extended, stop, answered, outcome⟩ => ?_
      obtain rfl : uses = new := extended
      refine ⟨stop, answered, ?_⟩
      cases stop with
      | none => exact outcome
      | some stopped =>
        obtain ⟨e, rfl, rfl⟩ := outcome
        rfl
    refine ⟨forgets, answered, ?_⟩
    rw [← forgets, ← bind_pure_comp]
    refine answered.bind fun (result, uses) ⟨stop, _, outcome⟩ => Ensures.pure fun fault => ?_
    cases stop with
    | none =>
      obtain ⟨p, rfl⟩ := outcome
      simp
    | some stopped =>
      obtain rfl := outcome
      simp

end Terms

/-- A deleted parenthesis, and a term that compares the year of a field with what is no number. -/
def yearTerms : List Term :=
  [(Term.control .opening).markDeleted,
    { fields := ["name"], lookup := some .contains, value := some "a" }, .control .or,
    { fields := ["opened", "closed"], lookup := some .year, value := some "x" },
    { fields := ["name"] }]

theorem Builder.terms_answered_year :
    LawfulMonad Id ∧ Balance.check (yearTerms.filter Term.isLive) = .ok () ∧
      ∃ stop, Answered (requests (yearTerms.filter Term.isLive))
          (comparisons (((conditionBuilder none).recorded.terms yearTerms).run.run []).run.2) stop ∧
        match stop with
        | none => ∃ p, (((conditionBuilder none).recorded.terms yearTerms).run.run []).run.1 = .ok p
        | some (position, cause) =>
          (((conditionBuilder none).recorded.terms yearTerms).run.run []).run.1 =
            .error (.term position cause) := by
  have balanced : Balance.check (yearTerms.filter Term.isLive) = .ok () := rfl
  obtain ⟨_, answered, _⟩ := (conditionBuilder none).terms_answered yearTerms
  rw [balanced] at answered
  have outcome := (ensures_id (((conditionBuilder none).recorded.terms yearTerms).run.run [])).mp
    answered
  exact ⟨inferInstance, balanced, outcome⟩

end SavedFilter
