import SavedFilter.Proofs.Compile.Recording

/-! # The height of the stack

A program can be followed by the height of its stack alone. `Ends good height program checked` says
that from such a stack every step of the program has the operands that it needs, and that the
program leaves one predicate or fails with an error of structure, as `checked` tells.

The program that the normal form of any terms makes ends as the check of their parentheses does,
whether they match or not: `ends_normal`. What carries the proof is that the operators that wait
could all be applied, `Complete`: behind an operand as the stack stands, in front of one as it will
stand with that operand on it. So compilation without the check fails for structure exactly when
the check fails, with the same error, and otherwise it succeeds: `tokens_end_as_checked`. -/
set_option autoImplicit false
namespace SavedFilter

/-! ## Programs followed by their height -/

namespace Program

/-- From a stack of that height, a program with good operands leaves one predicate, or fails with
an error of structure, and no step of it lacks an operand. -/
inductive Ends (good : Term → Prop) : Nat → List Step → Except StructureError Unit → Prop where
  | done : Ends good 1 [] (.ok ())
  | operand {height position : Nat} {t : Term} {program : List Step}
      {checked : Except StructureError Unit} (compiles : good t)
      (later : Ends good (height + 1) program checked) :
      Ends good height (.operand position t :: program) checked
  | always {height : Nat} {program : List Step} {checked : Except StructureError Unit}
      (later : Ends good (height + 1) program checked) :
      Ends good height (.apply .always :: program) checked
  | join {height : Nat} {c : Connective} {program : List Step}
      {checked : Except StructureError Unit} (later : Ends good (height + 1) program checked) :
      Ends good (height + 2) (.apply (.join c) :: program) checked
  | fail {height : Nat} {cause : StructureError} {program : List Step} :
      Ends good height (.fail cause :: program) (.error cause)

/-- The operators that wait can all be applied to a stack of that height, and leave one predicate.
No filler waits where an operand is missing. -/
inductive Complete : Nat → List Waiting → Prop where
  | nil : Complete 1 []
  | group {height : Nat} {ws : List Waiting} (below : Complete (height + 1) ws) :
      Complete (height + 1) (.group :: ws)
  | always {height : Nat} {ws : List Waiting} (below : Complete (height + 1) ws) :
      Complete height (.operation .always :: ws)
  | join {height : Nat} {c : Connective} {ws : List Waiting} (below : Complete (height + 1) ws) :
      Complete (height + 2) (.operation (.join c) :: ws)

theorem openGroups_group (ws : List Waiting) : openGroups (.group :: ws) = openGroups ws + 1 := by
  simp [openGroups]

theorem openGroups_release (rank : Nat) (ws : List Waiting) :
    openGroups (release rank ws).2 = openGroups ws := by
  induction ws with
  | nil => rfl
  | cons w ws ih =>
    cases w with
    | group => rfl
    | operation o =>
      by_cases binds : rank ≤ o.rank
      · rw [release_operation binds, openGroups_operation, ih]
      · rw [release, if_neg binds]

section Released

variable {good : Term → Prop} {height : Nat} {ws : List Waiting} {program : List Step}
  {checked : Except StructureError Unit}

/-- Released operators leave a stack that suits the others. What is left is not empty, since a
filler, which needs nothing below it, is always released. -/
theorem Complete.release (h : Complete height ws) {rank : Nat} (le : rank ≤ 3)
    (later : ∀ height, Complete (height + 1) (release rank ws).2 →
      Ends good (height + 1) program checked) :
    Ends good height ((release rank ws).1 ++ program) checked := by
  induction h with
  | nil => exact later 0 .nil
  | @group height ws below => exact later height (.group below)
  | @always height ws below ih =>
    have binds : rank ≤ Operation.always.rank := le
    rw [release_operation binds] at later ⊢
    exact .always (ih later)
  | @join height c ws below ih =>
    by_cases binds : rank ≤ (Operation.join c).rank
    · rw [release_operation binds] at later ⊢
      exact .join (ih later)
    · rw [Program.release, if_neg binds] at later ⊢
      exact later (height + 1) (.join below)

/-- Without an open group all operators are released, and one predicate is left. -/
theorem Complete.release_all (h : Complete height ws) (closed : openGroups ws = 0) :
    Ends good height (Program.release 0 ws).1 (.ok ()) := by
  induction h with
  | nil => exact .done
  | group => simp [openGroups_group] at closed
  | always _ ih =>
    rw [openGroups_operation] at closed
    rw [release_operation (Nat.zero_le _)]
    exact .always (ih closed)
  | join _ ih =>
    rw [openGroups_operation] at closed
    rw [release_operation (Nat.zero_le _)]
    exact .join (ih closed)

theorem Complete.releaseGroup_some (h : Complete height ws) {left : List Waiting}
    (closes : (releaseGroup ws).2 = some left)
    (later : ∀ height, Complete height left → Ends good height program checked) :
    Ends good height ((releaseGroup ws).1 ++ program) checked := by
  induction h with
  | nil => cases closes
  | group below =>
    cases closes
    exact later _ below
  | always _ ih => exact .always (ih closes)
  | join _ ih => exact .join (ih closes)

theorem Complete.releaseGroup_none (h : Complete height ws) (closes : (releaseGroup ws).2 = none)
    (later : ∀ height, Ends good height program checked) :
    Ends good height ((releaseGroup ws).1 ++ program) checked := by
  induction h with
  | nil => exact later _
  | group => cases closes
  | always _ ih => exact .always (ih closes)
  | join _ ih => exact .join (ih closes)

theorem openGroups_of_releaseGroup_some {left : List Waiting}
    (closes : (releaseGroup ws).2 = some left) : openGroups ws = openGroups left + 1 := by
  induction ws with
  | nil => cases closes
  | cons w ws ih =>
    cases w with
    | group =>
      cases closes
      exact openGroups_group left
    | operation o =>
      rw [openGroups_operation]
      exact ih closes

theorem openGroups_of_releaseGroup_none (closes : (releaseGroup ws).2 = none) :
    openGroups ws = 0 := by
  induction ws with
  | nil => rfl
  | cons w ws ih =>
    cases w with
    | group => cases closes
    | operation o =>
      rw [openGroups_operation]
      exact ih closes

/-- An operator that arrives behind an operand waits for the next one. -/
theorem Complete.mark (h : Complete height ws) (c : Connective) {index : Nat}
    {position : Option Nat} {ts : List Token}
    (later : ∀ height ws', Settled 3 ws' → Complete (height + 1) ws' →
      openGroups ws' = openGroups ws → Ends good height (ofTokensFrom (index + 1) ws' ts) checked) :
    Ends good height (ofTokensFrom index ws (⟨c.mark, position⟩ :: ts)) checked := by
  have looser : (Operation.join c).rank < 3 := by cases c <;> decide
  rw [ofTokensFrom_mark]
  refine h.release (Nat.le_of_lt looser) fun height left => ?_
  refine later _ _ (settled_operation looser _) (.join left) ?_
  rw [openGroups_operation, openGroups_release]

end Released

end Program

/-! ## The program of any terms -/

section Terms

open Program Token Balance

variable (good : Term → Prop) (ts : List Term)

/-- Where an operand is expected, the normal form of the terms makes a program that ends as the
check of the terms does. -/
def EndsExpecting : Prop :=
  ∀ n index height ws, Settled 3 ws → Complete (height + 1) ws →
    Ends good height (ofTokensFrom index ws (normal (ofPlaced (ts.zipIdx n))))
      (checkFrom (openGroups ws) n ts)

/-- Behind an operand, the normal form of the terms makes a program that ends as the check of the
terms does. -/
def EndsFollowing : Prop :=
  ∀ n index height ws, Complete height ws →
    Ends good height (ofTokensFrom index ws (followed (ofPlaced (ts.zipIdx n))))
      (checkFrom (openGroups ws) n ts)

variable {good ts}

theorem endsFollowing_nil : EndsFollowing good [] := by
  intro n index height ws complete
  change Ends good height (finish ws) (checkFrom (openGroups ws) n [])
  rw [finish, checkFrom]
  by_cases closed : openGroups ws = 0
  · rw [if_pos closed, if_pos closed]
    exact complete.release_all closed
  · rw [if_neg closed, if_neg closed]
    exact .fail

/-- A filler stands in a place where no operand begins. -/
theorem EndsFollowing.expecting (h : EndsFollowing good ts)
    (noneStarts : ∀ t ∈ ts.head?, t.startsOperand = false) : EndsExpecting good ts := by
  intro n index height ws settled complete
  have nonePlaced : ∀ p ∈ (ts.zipIdx n).head?, p.1.startsOperand = false := by
    cases ts with
    | nil => simp
    | cons t ts => simpa using noneStarts
  rw [normal_empty nonePlaced, ofTokensFrom_filler, release_of_settled settled, List.nil_append]
  simpa only [openGroups_operation] using h n (index + 1) height _ (.always complete)

section Step

variable {t : Term} (live : t.isLive)

/-- A conjunction stands in front of an operand that follows another. -/
theorem EndsExpecting.following (h : EndsExpecting good (t :: ts)) (starts : t.startsOperand) :
    EndsFollowing good (t :: ts) := by
  intro n index height ws complete
  rw [List.zipIdx_cons, followed_operand _ _ starts]
  refine complete.mark .and fun height ws' settled complete' same => ?_
  rw [← same]
  exact h n _ height ws' settled complete'

theorem endsExpecting_condition (h : EndsFollowing good ts) (atomic : t.isAtomic)
    (compiles : good t) : EndsExpecting good (t :: ts) := by
  intro n index height ws _ complete
  have noParenthesis : t.operator ≠ .opening ∧ t.operator ≠ .closing := by
    cases operator : t.operator <;> simp_all [Term.isAtomic, Operator.isAtomic]
  rw [List.zipIdx_cons, normal_condition _ _ atomic, ofTokensFrom_condition,
    checkFrom_other _ _ _ noParenthesis]
  exact .operand compiles (h (n + 1) _ _ ws complete)

theorem endsFollowing_mark (h : EndsExpecting good ts) (c : Connective)
    (operator : t.operator = c.operator) : EndsFollowing good (t :: ts) := by
  intro n index height ws complete
  have noParenthesis : t.operator ≠ .opening ∧ t.operator ≠ .closing := by
    rw [operator]
    cases c <;> decide
  rw [List.zipIdx_cons, followed_mark _ _ c operator, checkFrom_other _ _ _ noParenthesis]
  refine complete.mark c fun height ws' settled complete' same => ?_
  rw [← same]
  exact h (n + 1) _ height ws' settled complete'

include live

theorem endsExpecting_opening (h : EndsExpecting good ts) (operator : t.operator = .opening) :
    EndsExpecting good (t :: ts) := by
  intro n index height ws _ complete
  rw [List.zipIdx_cons, normal_opening _ _ operator, ofTokensFrom_opening,
    checkFrom_opening _ _ _ live operator, ← openGroups_group]
  exact h (n + 1) _ height _ (settled_group 3 ws) (.group complete)

theorem endsFollowing_closing (h : EndsFollowing good ts) (operator : t.operator = .closing) :
    EndsFollowing good (t :: ts) := by
  intro n index height ws complete
  rw [List.zipIdx_cons, followed_closing _ _ operator]
  cases released : releaseGroup ws with
  | mk steps left =>
    cases left with
    | none =>
      -- No group is open, so the check stops here too; the steps in front of the failure still run.
      have unmatched : (releaseGroup ws).2 = none := by rw [released]
      rw [openGroups_of_releaseGroup_none unmatched, checkFrom_closing_zero _ _ live operator]
      have fails : ∀ height, Ends good height [.fail (.unmatchedClosing n)]
          (.error (.unmatchedClosing n)) := fun _ => .fail
      simpa only [ofTokensFrom, released, Option.getD_some] using
        complete.releaseGroup_none unmatched fails
    | some left =>
      have closes : (releaseGroup ws).2 = some left := by rw [released]
      rw [openGroups_of_releaseGroup_some closes, checkFrom_closing_succ _ _ _ live operator]
      have goesOn := complete.releaseGroup_some closes fun height complete' =>
        h (n + 1) (index + 1) height left complete'
      simpa only [ofTokensFrom, released] using goesOn

end Step

/-- An operand may follow at once or may be expected: both ways end as the check does. -/
theorem ends_normal (allLive : ∀ t ∈ ts, t.isLive) (compiles : ∀ t ∈ ts, t.isAtomic → good t) :
    EndsExpecting good ts ∧ EndsFollowing good ts := by
  induction ts with
  | nil =>
    have following : EndsFollowing good [] := endsFollowing_nil
    exact ⟨following.expecting (by simp), following⟩
  | cons t ts ih =>
    have live : t.isLive := allLive t (by simp)
    obtain ⟨expecting, following⟩ := ih (fun u member => allLive u (by simp [member]))
      fun u member => compiles u (by simp [member])
    -- What begins an operand is read where one is expected, and anything else behind one.
    have ofStarting (starts : t.startsOperand) (h : EndsExpecting good (t :: ts)) :
        EndsExpecting good (t :: ts) ∧ EndsFollowing good (t :: ts) := ⟨h, h.following starts⟩
    have ofOther (starts : t.startsOperand = false) (h : EndsFollowing good (t :: ts)) :
        EndsExpecting good (t :: ts) ∧ EndsFollowing good (t :: ts) :=
      ⟨h.expecting (by simpa using starts), h⟩
    cases operator : t.operator with
    | plain | not =>
      have atomic : t.isAtomic := by simp [Term.isAtomic, operator, Operator.isAtomic]
      exact ofStarting (by simp [Term.startsOperand, atomic])
        (endsExpecting_condition following atomic (compiles t (by simp) atomic))
    | opening =>
      exact ofStarting (by simp [Term.startsOperand, operator])
        (endsExpecting_opening live expecting operator)
    | and =>
      exact ofOther (by simp [Term.startsOperand, Term.isAtomic, operator, Operator.isAtomic])
        (endsFollowing_mark expecting .and operator)
    | or =>
      exact ofOther (by simp [Term.startsOperand, Term.isAtomic, operator, Operator.isAtomic])
        (endsFollowing_mark expecting .or operator)
    | closing =>
      exact ofOther (by simp [Term.startsOperand, Term.isAtomic, operator, Operator.isAtomic])
        (endsFollowing_closing live following operator)

end Terms

/-! ## Running a program that ends -/

section Run

open Program

variable {m : Type → Type} [Monad m] [LawfulMonad m] {π ε α β : Type}

/-- Every result of the computation is a value that satisfies the condition. -/
def Succeeds (post : α → Prop) (x : ExceptT ε m α) : Prop :=
  Ensures (fun result => ∃ a, result = .ok a ∧ post a) x.run

theorem Succeeds.bind {post : α → Prop} {after : Except ε β → Prop} {x : ExceptT ε m α}
    {f : α → ExceptT ε m β} (first : Succeeds post x)
    (next : ∀ a, post a → Ensures after (f a).run) : Ensures after (x >>= f).run := by
  rw [ExceptT.run_bind]
  refine Ensures.bind first fun result ⟨a, ok, holds⟩ => ?_
  rw [ok]
  exact next a holds

theorem Succeeds.lift (x : m α) : Succeeds (fun _ => True) (liftM x : ExceptT ε m α) := by
  change Ensures _ (Except.ok <$> x)
  rw [← bind_pure_comp]
  exact (Ensures.trivial x).bind fun a _ => Ensures.pure ⟨a, rfl, trivial⟩

theorem Succeeds.adapt {ε' : Type} {post : α → Prop} {x : ExceptT ε m α} (f : ε → ε')
    (h : Succeeds post x) : Succeeds post (x.adapt f) := by
  change Ensures _ (Except.mapError f <$> x.run)
  rw [← bind_pure_comp]
  refine Ensures.bind h fun result ⟨a, ok, holds⟩ => Ensures.pure ⟨a, ?_, holds⟩
  rw [ok]
  rfl

section Builder

variable (b : Builder m π)

theorem Builder.step_operand {t : Term} (compiles : Succeeds (fun _ => True) (b.term t))
    (position : Nat) (stack : List π) :
    Succeeds (fun after => ∃ p, after = p :: stack) (b.step stack (.operand position t)) :=
  (compiles.adapt _).bind fun p _ => Ensures.pure ⟨_, rfl, p, rfl⟩

theorem Builder.step_always (stack : List π) :
    Succeeds (fun after => ∃ p, after = p :: stack) (b.step stack (.apply .always)) :=
  (Succeeds.lift b.always).bind fun p _ => Ensures.pure ⟨_, rfl, p, rfl⟩

theorem Builder.step_join (c : Connective) (right left : π) (stack : List π) :
    Succeeds (fun after => ∃ p, after = p :: stack)
      (b.step (right :: left :: stack) (.apply (.join c))) :=
  (Succeeds.lift (b.join c left right)).bind fun p _ => Ensures.pure ⟨_, rfl, p, rfl⟩

/-- A result is a value that satisfies the condition, or else the error of structure that was
found. -/
def EndsAs (checked : Except StructureError Unit) (post : α → Prop)
    (result : Except CompileError α) : Prop :=
  match checked with
  | .ok () => ∃ a, result = .ok a ∧ post a
  | .error cause => result = .error (.structural cause)

/-- The stack of a program that ends has the height that it was followed by. -/
theorem Program.Ends.foldlM_step {good : Term → Prop} {height : Nat} {program : List Step}
    {checked : Except StructureError Unit} (h : Ends good height program checked)
    (compiles : ∀ t, good t → Succeeds (fun _ => True) (b.term t)) {stack : List π}
    (length : stack.length = height) :
    Ensures (EndsAs checked fun stack => ∃ p, stack = [p]) (program.foldlM b.step stack).run := by
  induction h generalizing stack with
  | done =>
    obtain ⟨p, rfl⟩ := List.length_eq_one_iff.mp length
    exact Ensures.pure ⟨[p], rfl, p, rfl⟩
  | @operand height position t program checked goodTerm _ ih =>
    rw [List.foldlM_cons]
    refine (b.step_operand (compiles t goodTerm) position stack).bind fun after ⟨p, eq⟩ => ih ?_
    rw [eq, List.length_cons, length]
  | always _ ih =>
    rw [List.foldlM_cons]
    refine (b.step_always stack).bind fun after ⟨p, eq⟩ => ih ?_
    rw [eq, List.length_cons, length]
  | @join height c program checked _ ih =>
    -- The height says that there are two operands, so no step finds the stack too short.
    match stack, length with
    | right :: left :: rest, length =>
      rw [List.foldlM_cons]
      refine (b.step_join c right left rest).bind fun after ⟨p, eq⟩ => ih ?_
      simp only [List.length_cons] at length
      rw [eq, List.length_cons]
      omega
  | @fail height cause program =>
    rw [List.foldlM_cons, ExceptT.run_bind]
    change Ensures _ (pure (Except.error (CompileError.structural cause)) >>= _)
    rw [pure_bind]
    exact Ensures.pure rfl

theorem Program.Ends.run {good : Term → Prop} {program : List Step}
    {checked : Except StructureError Unit} (h : Ends good 0 program checked)
    (compiles : ∀ t, good t → Succeeds (fun _ => True) (b.term t)) :
    Ensures (EndsAs checked fun _ => True) (b.run program).run := by
  rw [Builder.run, ExceptT.run_bind]
  refine (h.foldlM_step b compiles List.length_nil).bind fun stack outcome => ?_
  cases checked with
  | ok _ =>
    obtain ⟨_, rfl, p, rfl⟩ := outcome
    exact Ensures.pure ⟨p, rfl, trivial⟩
  | error cause =>
    obtain rfl := outcome
    exact Ensures.pure rfl

end Builder

/-- Terms are compiled without the check of their parentheses: the run fails for structure exactly
when the check fails, with the same error, and otherwise it succeeds. -/
theorem Builder.tokens_end_as_checked (b : Builder m π) {ts : List Term}
    (allLive : ∀ t ∈ ts, t.isLive)
    (compiles : ∀ t ∈ ts, t.isAtomic → Ensures (fun result => ∃ p, result = .ok p) (b.term t).run) :
    Ensures (fun result =>
        (∀ cause, result = .error (.structural cause) ↔ Balance.check ts = .error cause) ∧
          ((∃ p, result = .ok p) ↔ Balance.check ts = .ok ()))
      (b.tokens (Token.normalOfTerms ts)).run := by
  have expecting : EndsExpecting (fun t => t ∈ ts ∧ t.isAtomic) ts :=
    (ends_normal allLive fun t member atomic => ⟨member, atomic⟩).1
  have ends : Ends (fun t => t ∈ ts ∧ t.isAtomic) 0 (ofTokens (Token.normalOfTerms ts))
      (Balance.check ts) := expecting 0 0 0 [] (settled_nil 3) .nil
  have succeed : ∀ t, t ∈ ts ∧ t.isAtomic → Succeeds (fun _ => True) (b.term t) := by
    intro t ⟨member, atomic⟩
    exact (compiles t member atomic).mono fun result ⟨p, ok⟩ => ⟨p, ok, trivial⟩
  refine (ends.run b succeed).mono fun result outcome => ?_
  cases checked : Balance.check ts with
  | ok _ =>
    rw [checked] at outcome
    obtain ⟨p, rfl, _⟩ := outcome
    simp
  | error cause =>
    rw [checked] at outcome
    obtain rfl := outcome
    simp

end Run

/-- `OR NOT a ( b AND (`: empty places, a mark left out, and two groups that stay open. -/
def openTerms : List Term :=
  [.control .or, { operator := .not, fields := ["a"], lookup := some .equals, value := some "1" },
    .control .opening, { fields := ["b"], lookup := some .equals, value := some "2" },
    .control .and, .control .opening]

theorem Builder.tokens_end_as_checked_open :
    LawfulMonad Id ∧ (∀ t ∈ openTerms, t.isLive) ∧
      (∀ t ∈ openTerms, t.isAtomic →
        Ensures (fun result => ∃ p, result = .ok p) (symbolicBuilder.term t).run) ∧
      Balance.check openTerms = .error (.unclosedOpening 2) ∧
      (symbolicBuilder.tokens (Token.normalOfTerms openTerms)).run.run =
        .error (.structural (.unclosedOpening 2)) := by
  have allLive : ∀ t ∈ openTerms, t.isLive := by decide
  have compiles : ∀ t ∈ openTerms, t.isAtomic →
      Ensures (fun result => ∃ p, result = .ok p) (symbolicBuilder.term t).run := by
    have allSome : ∀ t ∈ openTerms, t.isAtomic → (outcome? (symbolicBuilder.term t)).isSome := by
      decide
    intro t member atomic
    obtain ⟨p, h⟩ := Option.isSome_iff_exists.mp (allSome t member atomic)
    rw [(outcome?_eq_some_iff _ p).mp h]
    exact Ensures.pure ⟨p, rfl⟩
  have checked : Balance.check openTerms = .error (.unclosedOpening 2) := rfl
  have agree := (ensures_id _).mp (symbolicBuilder.tokens_end_as_checked allLive compiles)
  exact ⟨inferInstance, allLive, compiles, checked, (agree.1 _).mpr checked⟩

end SavedFilter
