import SavedFilter.Condition.Match
import SavedFilter.Proofs.Compile.Valuation
import SavedFilter.Proofs.Condition.Compiled

/-! # The truth of filters

Whether the condition of terms holds of a record can be told without the condition. Every term has
a truth value or is refused, `recordTruth`, and one pass over the terms from the left combines the
values: for each open group it keeps whether a complete conjunction of it holds, and whether all
operands of the conjunction under way do. The pass gives the value of the tree that the terms read
as, `Tally.value_of_reads`.

In that pass a conjunction mark does nothing, since a conjunction goes on without one, and neither
does a group without terms, which holds. So both may stand anywhere: `neutral_inserted`. -/
set_option autoImplicit false
namespace SavedFilter

/-! ## Conditions that agree -/

/-- Two compilations give conditions that hold of the same records, or both are refused with the
same error, positions aside. -/
inductive Agree : ExceptT CompileError Id Condition → ExceptT CompileError Id Condition → Prop where
  | compiled {c d : Condition} (same : ∀ record, c.holds record = d.holds record) :
      Agree (pure c) (pure d)
  | refused {e e' : CompileError} (same : e.unplaced = e'.unplaced) : Agree (throw e) (throw e')

theorem pure_or_throw {ε α : Type} (x : ExceptT ε Id α) :
    (∃ a, x = pure a) ∨ ∃ e, x = throw e := by
  cases run : x.run.run with
  | ok a => exact .inl ⟨a, run⟩
  | error e => exact .inr ⟨e, run⟩

/-- Compilations agree when they tell the same about every record. -/
theorem agree_of_holds {x y : ExceptT CompileError Id Condition}
    (same : ∀ record : Json, (·.holds record) <$> x.adapt CompileError.unplaced =
      (·.holds record) <$> y.adapt CompileError.unplaced) : Agree x y := by
  obtain ⟨c, rfl⟩ | ⟨e, rfl⟩ := pure_or_throw x
  · obtain ⟨d, rfl⟩ | ⟨e', rfl⟩ := pure_or_throw y
    · refine .compiled fun record => ?_
      exact Except.ok.inj (same record)
    · cases same .null
  · obtain ⟨d, rfl⟩ | ⟨e', rfl⟩ := pure_or_throw y
    · cases same .null
    · exact .refused (Except.error.inj (same .null))

/-! ## Truth values -/

def Connective.truth : Connective → Bool → Bool → Bool
  | and => fun p q => p && q
  | or => fun p q => p || q

section Truth

variable {m : Type → Type} [Monad m]

def Valuation.ofTruth (value : Term → ExceptT TermError m Bool) : Valuation m Bool where
  term := value
  join c p q := pure (c.truth p q)
  always := pure true

end Truth

def recordTruth (record : Json) (t : Term) : ExceptT TermError Id Bool :=
  (·.holds record) <$> (conditionBuilder none).term t

theorem holds_value (record : Json) (tree : TermTree) :
    (·.holds record) <$> tree.value (conditionBuilder none).valuation =
      tree.value (.ofTruth (recordTruth record)) := by
  induction tree with
  | always => rfl
  | condition position t => rfl
  | join c left right ihLeft ihRight =>
    rw [TermTree.value, TermTree.value, ← ihLeft, ← ihRight]
    simp only [map_bind, bind_map_left]
    refine bind_congr fun p => bind_congr fun q => ?_
    cases c <;> rfl

/-! ## One pass over terms -/

/-- What is known of a group that is open. -/
structure Level where
  /-- A conjunction before the one under way holds. -/
  any : Bool
  /-- The operands of the conjunction under way all hold. -/
  all : Bool

namespace Level

def start : Level := ⟨false, true⟩

def holds (l : Level) : Bool := l.any || l.all

def operand (l : Level) (p : Bool) : Level := { l with all := l.all && p }

def alternative (l : Level) : Level := ⟨l.holds, true⟩

end Level

/-- The innermost open group, and those around it. -/
structure Tally where
  inner : Level
  outer : List Level

namespace Tally

def start : Tally := ⟨.start, []⟩

def operand (s : Tally) (p : Bool) : Tally := { s with inner := s.inner.operand p }

def close (s : Tally) : Tally :=
  match s.outer with
  | [] => s
  | around :: outer => ⟨around.operand s.inner.holds, outer⟩

section Step

variable {m : Type → Type} [Monad m] (value : Term → ExceptT TermError m Bool)

def step (s : Tally) (t : Term) : ExceptT TermError m Tally :=
  match t.operator with
  | .plain | .not => s.operand <$> value t
  | .and => pure s
  | .or => pure { s with inner := s.inner.alternative }
  | .opening => pure ⟨.start, s.inner :: s.outer⟩
  | .closing => pure s.close

/-- The truth of terms: that of what is left open at their end. -/
def truth (ts : List Term) : ExceptT TermError m Bool :=
  (·.inner.holds) <$> ts.foldlM (step value) start

end Step

theorem operand_operand (s : Tally) (p q : Bool) :
    (s.operand p).operand q = s.operand (p && q) := by
  simp [operand, Level.operand, Bool.and_assoc]

theorem operand_true (s : Tally) : s.operand true = s := by
  simp [operand, Level.operand]

section Reads

variable {m : Type → Type} [Monad m] (value : Term → ExceptT TermError m Bool)

def walk (s : Tally) (ts : List PlacedTerm) : ExceptT TermError m Tally :=
  (ts.map Prod.fst).foldlM (step value) s

/-- What a pass does on a phrase. Behind an operand or a conjunction its value is taken into the
conjunction under way; a disjunction is begun anew, and its value is that of the level behind it. -/
def Passes : TermTree.Phrase → List PlacedTerm → TermTree → List PlacedTerm → Prop
  | .operand, ts, tree, rest | .conjunction, ts, tree, rest =>
    ∀ s, walk value s ts = do
      let p ← tree.value (.ofTruth value)
      walk value (s.operand p) rest
  | .disjunction, ts, tree, rest =>
    ∀ any outer, ∃ level : ExceptT TermError m Level,
      Level.holds <$> level = (any || ·) <$> tree.value (.ofTruth value) ∧
        walk value ⟨⟨any, true⟩, outer⟩ ts = do
          let l ← level
          walk value ⟨l, outer⟩ rest

variable {value}

theorem walk_cons (s : Tally) (t : Term) (n : Nat) (ts : List PlacedTerm) :
    walk value s ((t, n) :: ts) = step value s t >>= fun s => walk value s ts :=
  List.foldlM_cons

variable [LawfulMonad m]

theorem value_join (c : Connective) (left right : TermTree) :
    (TermTree.join c left right).value (.ofTruth value) =
      left.value (.ofTruth value) >>= fun p =>
        right.value (.ofTruth value) >>= fun q => pure (c.truth p q) := by
  rw [TermTree.value]
  refine bind_congr fun p => bind_congr fun q => ?_
  apply ExceptT.ext
  exact map_pure _ _

theorem value_always : TermTree.always.value (.ofTruth value) = pure true := by
  apply ExceptT.ext
  exact map_pure _ _

theorem passes_and {start mid rest : List PlacedTerm} {left right : TermTree}
    (first : Passes value .conjunction start left mid)
    (last : Passes value .operand mid right rest) :
    Passes value .conjunction start (.join .and left right) rest := by
  intro s
  rw [first s, value_join, bind_assoc]
  refine bind_congr fun p => ?_
  rw [last, bind_assoc]
  refine bind_congr fun q => ?_
  rw [pure_bind, operand_operand]
  rfl

/-- A mark between two alternatives closes the conjunction before it and begins another. -/
theorem passes_or {t : Term} {n : Nat} {start mid rest : List PlacedTerm} {left right : TermTree}
    (mark : t.operator = .or) (first : Passes value .disjunction start left ((t, n) :: mid))
    (last : Passes value .conjunction mid right rest) :
    Passes value .disjunction start (.join .or left right) rest := by
  intro any outer
  obtain ⟨level, holds, passed⟩ := first any outer
  -- Of the alternatives on the left the next level keeps only whether one of them holds.
  refine ⟨level >>= fun l => (fun q => ⟨l.holds, q⟩) <$> right.value (.ofTruth value), ?_, ?_⟩
  · have joined : (any || ·) <$> (TermTree.join .or left right).value (.ofTruth value) =
        (Level.holds <$> level) >>= fun p => (p || ·) <$> right.value (.ofTruth value) := by
      rw [value_join, holds, bind_map_left, map_bind]
      refine bind_congr fun p => ?_
      rw [map_bind, map_eq_pure_bind]
      refine bind_congr fun q => ?_
      rw [map_pure, Connective.truth, Bool.or_assoc]
    rw [joined, map_bind, bind_map_left]
    refine bind_congr fun l => ?_
    rw [Functor.map_map]
    rfl
  · have alternative (l : Level) : step value ⟨l, outer⟩ t = pure ⟨l.alternative, outer⟩ := by
      rw [step, mark]
    rw [passed, bind_assoc]
    refine bind_congr fun l => ?_
    rw [walk_cons, alternative, pure_bind, bind_map_left]
    exact last ⟨l.alternative, outer⟩

theorem passes_of_reads {phrase : TermTree.Phrase} {ts rest : List PlacedTerm} {tree : TermTree}
    (h : TermTree.Reads phrase ts tree rest) : Passes value phrase ts tree rest := by
  induction h with
  | @condition t n ts atomic =>
    intro s
    have operand : step value s t = s.operand <$> value t := by
      cases operator : t.operator <;> simp_all [step, Term.isAtomic, Operator.isAtomic]
    rw [walk_cons, operand, bind_map_left]
    rfl
  | @group t u n k ts rest tree opening _ closing ih =>
    intro s
    -- Nothing is known to hold where a group begins, so its level tells the value of its tree.
    obtain ⟨level, holds, inside⟩ := ih false (s.inner :: s.outer)
    have enter : step value s t = pure ⟨.start, s.inner :: s.outer⟩ := by rw [step, opening]
    have leave (l : Level) : step value ⟨l, s.inner :: s.outer⟩ u = pure (s.operand l.holds) := by
      rw [step, closing]
      rfl
    have valueEq : Level.holds <$> level = tree.value (.ofTruth value) := by
      rw [holds]
      exact id_map _
    rw [walk_cons, enter, pure_bind, ← valueEq, bind_map_left]
    refine inside.trans (bind_congr fun l => ?_)
    rw [walk_cons, leave, pure_bind]
  | empty noneStarts =>
    intro s
    rw [value_always, pure_bind, operand_true]
  | operand _ ih => exact ih
  | @and t n ts mid rest left right _ mark _ ihFirst ihLast =>
    have behind : Passes value .operand ((t, n) :: mid) right rest := by
      intro s
      have goesOn : step value s t = pure s := by rw [step, mark]
      rw [walk_cons, goesOn, pure_bind]
      exact ihLast s
    exact passes_and ihFirst behind
  | adjacent _ _ _ ihFirst ihLast => exact passes_and ihFirst ihLast
  | @conjunction ts rest tree _ ih =>
    intro any outer
    refine ⟨(fun p => ⟨any, p⟩) <$> tree.value (.ofTruth value), ?_, ?_⟩
    · rw [Functor.map_map]
      rfl
    · rw [bind_map_left]
      exact ih ⟨⟨any, true⟩, outer⟩
  | or _ mark _ ihFirst ihLast => exact passes_or mark ihFirst ihLast

/-- The tree that terms read as has the value that one pass over the terms finds. -/
theorem value_of_reads {live : List Term} {tree : TermTree}
    (reads : TermTree.Reads .disjunction live.zipIdx tree []) :
    tree.value (.ofTruth value) = truth value live := by
  have passes : Passes value .disjunction live.zipIdx tree [] := passes_of_reads reads
  obtain ⟨level, holds, passed⟩ := passes false []
  have run : live.foldlM (step value) start = (⟨·, []⟩) <$> level := by
    rw [map_eq_pure_bind]
    refine Eq.trans ?_ passed
    rw [walk, List.zipIdx_map_fst]
    rfl
  have valueEq : Level.holds <$> level = tree.value (.ofTruth value) := by
    rw [holds]
    exact id_map _
  rw [truth, run, Functor.map_map, ← valueEq]

end Reads

end Tally

/-! ## Terms without effect -/

/-- A conjunction mark, or a pair of parentheses with nothing in between. Both parentheses are
marked as deleted, or none of them is. -/
inductive Neutral : List Term → Prop where
  | and {t : Term} (mark : t.operator = .and) : Neutral [t]
  | group {first last : Term} (opening : first.operator = .opening)
      (closing : last.operator = .closing) (together : first.deleted = last.deleted) :
      Neutral [first, last]

namespace Neutral

variable {inserted : List Term}

theorem all_live_or_none (h : Neutral inserted) :
    (∀ t ∈ inserted, t.isLive) ∨ inserted.filter Term.isLive = [] := by
  cases h with
  | @and t mark =>
    cases live : t.isLive with
    | true => exact .inl (by simp [live])
    | false => exact .inr (by simp [live])
  | @group first last opening closing together =>
    have same : first.isLive = last.isLive := by rw [Term.isLive, Term.isLive, together]
    cases live : last.isLive with
    | true => exact .inl (by simp [same, live])
    | false => exact .inr (by simp [same, live])

theorem verdict (h : Neutral inserted) (live : ∀ t ∈ inserted, t.isLive) (depth : Nat)
    (ts : List Term) : Balance.verdict depth (inserted ++ ts) = Balance.verdict depth ts := by
  cases h with
  | and mark =>
    apply Balance.verdict_others
    simp [mark]
  | @group first last opening closing =>
    have firstLive : first.isLive := live first (by simp)
    have lastLive : last.isLive := live last (by simp)
    have inside : ∀ t ∈ ([] : List Term), t.operator ≠ .opening ∧ t.operator ≠ .closing := by
      simp
    exact Balance.verdict_group opening closing firstLive lastLive inside depth ts

/-- A pass is where it was behind them: an empty group holds. -/
theorem passed {m : Type → Type} [Monad m] [LawfulMonad m]
    (value : Term → ExceptT TermError m Bool) (h : Neutral inserted) (s : Tally) :
    inserted.foldlM (Tally.step value) s = pure s := by
  cases h with
  | @and t mark =>
    have goesOn : Tally.step value s t = pure s := by rw [Tally.step, mark]
    rw [List.foldlM_cons, goesOn, pure_bind, List.foldlM_nil]
  | @group first last opening closing =>
    have enter : Tally.step value s first = pure ⟨.start, s.inner :: s.outer⟩ := by
      rw [Tally.step, opening]
    have leave : Tally.step value ⟨.start, s.inner :: s.outer⟩ last = pure (s.operand true) := by
      rw [Tally.step, closing]
      rfl
    rw [List.foldlM_cons, enter, pure_bind, List.foldlM_cons, leave, pure_bind, List.foldlM_nil,
      Tally.operand_true]

theorem truth_inserted {m : Type → Type} [Monad m] [LawfulMonad m]
    (value : Term → ExceptT TermError m Bool) (h : Neutral inserted) (front back : List Term) :
    Tally.truth value (front ++ back) = Tally.truth value (front ++ (inserted ++ back)) := by
  rw [Tally.truth, Tally.truth, List.foldlM_append, List.foldlM_append]
  congr 1
  refine bind_congr fun s => ?_
  rw [List.foldlM_append, h.passed, pure_bind]

end Neutral

/-- Empty groups and conjunction marks may stand anywhere in a filter, next to other marks and to
terms marked as deleted too: its condition still holds of the same records. -/
theorem neutral_inserted (front back : List Term) {inserted : List Term}
    (neutral : Neutral inserted) :
    Agree ((conditionBuilder none).terms (front ++ back))
      ((conditionBuilder none).terms (front ++ (inserted ++ back))) := by
  apply agree_of_holds
  intro record
  have before : (front ++ back).filter Term.isLive =
      front.filter Term.isLive ++ back.filter Term.isLive :=
    List.filter_append _ _
  have after : (front ++ (inserted ++ back)).filter Term.isLive =
      front.filter Term.isLive ++ (inserted.filter Term.isLive ++ back.filter Term.isLive) := by
    rw [List.filter_append, List.filter_append]
  obtain live | noneLive := neutral.all_live_or_none
  · rw [List.filter_eq_self.mpr live] at after
    apply Builder.terms_alike
    · rw [before, after]
      exact Balance.verdict_append (fun depth => (neutral.verdict live depth _).symm) _ 0
    · intro balanced tree reads
      obtain ⟨tree', reads'⟩ := TermTree.reads_of_check _ balanced
      refine ⟨tree', reads', ?_⟩
      rw [holds_value, holds_value, Tally.value_of_reads reads, Tally.value_of_reads reads',
        before, after, neutral.truth_inserted]
  · rw [Builder.terms, Builder.terms, before, after, noneLive, List.nil_append]

def openOr : List Term :=
  [{ fields := ["status"], lookup := some .equals, value := some "open" }, .control .or]

/-- A parenthesis that takes no part, and a condition that is negated. -/
def notDraft : List Term :=
  [(Term.control .closing).markDeleted,
    { operator := .not, fields := ["title"], lookup := some .contains, value := some "draft" }]

theorem neutral_inserted_behind_or :
    Neutral [.control .and] ∧ Neutral [.control .opening, .control .closing] ∧
      (conditionBuilder none).terms (openOr ++ notDraft) =
        pure (.or (.compare "status" .equals (.scalar (.string "open")))
          (.not (.compare "title" .contains (.scalar (.string "draft"))))) ∧
      Agree ((conditionBuilder none).terms (openOr ++ notDraft))
        ((conditionBuilder none).terms (openOr ++ ([.control .and] ++ notDraft))) ∧
      Agree ((conditionBuilder none).terms (openOr ++ notDraft))
        ((conditionBuilder none).terms
          (openOr ++ ([.control .opening, .control .closing] ++ notDraft))) := by
  have mark : Neutral [.control .and] := .and rfl
  have group : Neutral [.control .opening, .control .closing] := .group rfl rfl rfl
  exact ⟨mark, group, rfl, neutral_inserted openOr notDraft mark,
    neutral_inserted openOr notDraft group⟩

end SavedFilter
