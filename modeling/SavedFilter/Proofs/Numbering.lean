import SavedFilter.Proofs.Check
import SavedFilter.Proofs.Compile.Valuation

/-! # Numbers of terms

Issues and the errors of compiling number the terms that take part; the check of parentheses, as the
check command runs it, numbers all terms. Both find the same parenthesis, `Balance.check_live`: its
number among the terms that take part is smaller by the deleted terms before it. So the check
command and the compiler name one term by one number exactly when no deleted term stands before it:
`Filter.faults_alike_iff`. -/
set_option autoImplicit false
namespace SavedFilter

/-! ## Numbers among the terms that take part -/

/-- The position that a term at a position has among the terms that take part. -/
def livePosition (ts : List Term) (position : Nat) : Nat := (ts.take position).countP Term.isLive

def StructureError.amongLive (ts : List Term) : StructureError → StructureError
  | unmatchedClosing position => unmatchedClosing (livePosition ts position)
  | unclosedOpening depth => unclosedOpening depth

section Positions

variable {ts : List Term} {t : Term} {position : Nat}

theorem livePosition_eq_iff (within : position ≤ ts.length) :
    livePosition ts position = position ↔ ∀ t ∈ ts.take position, t.isLive := by
  have length : (ts.take position).length = position := List.length_take_of_le within
  rw [← List.countP_eq_length, length, livePosition]

/-- A term that takes part is the same at both of its positions. -/
theorem getElem?_livePosition (here : ts[position]? = some t) (live : t.isLive) :
    (ts.filter Term.isLive)[livePosition ts position]? = some t := by
  obtain ⟨within, atPosition⟩ := List.getElem?_eq_some_iff.mp here
  have parts : ts = ts.take position ++ t :: ts.drop (position + 1) := by
    rw [← atPosition, ← List.drop_eq_getElem_cons within, List.take_append_drop]
  have counted : livePosition ts position = ((ts.take position).filter Term.isLive).length :=
    List.countP_eq_length_filter
  have liveParts : ts.filter Term.isLive = (ts.take position).filter Term.isLive ++
      t :: (ts.drop (position + 1)).filter Term.isLive := by
    rw [← List.filter_cons_of_pos live, ← List.filter_append, ← parts]
  rw [counted, liveParts, List.getElem?_append_right (Nat.le_refl _), Nat.sub_self,
    List.getElem?_cons_zero]

end Positions

namespace Balance

theorem checkFrom_live (before ts : List Term) (depth : Nat) :
    checkFrom depth (before.countP Term.isLive) (ts.filter Term.isLive) =
      (checkFrom depth before.length ts).mapError (StructureError.amongLive (before ++ ts)) := by
  induction ts generalizing before depth with
  | nil =>
    rw [List.filter_nil, checkFrom, checkFrom]
    split <;> rfl
  | cons t ts ih =>
    have onward := ih (before ++ [t])
    rw [List.append_assoc, List.singleton_append, List.length_append, List.length_singleton,
      List.countP_append, List.countP_singleton] at onward
    cases live : t.isLive with
    | false =>
      rw [live] at onward
      rw [List.filter_cons_of_neg (by simp [live]), checkFrom_deleted _ _ _ live]
      exact onward depth
    | true =>
      rw [live] at onward
      rw [List.filter_cons_of_pos live, checkFrom_cons, checkFrom_cons]
      cases depthAfter depth t with
      | none =>
        have here : livePosition (before ++ t :: ts) before.length =
            before.countP Term.isLive := by
          rw [livePosition, List.take_left]
        rw [← here]
        rfl
      | some depth => exact onward depth

/-- Checked without the deleted terms, terms have the same error under another number. -/
theorem check_live (ts : List Term) :
    check (ts.filter Term.isLive) = (check ts).mapError (StructureError.amongLive ts) :=
  checkFrom_live [] ts 0

theorem depthAfter_eq_none_iff (depth : Nat) (t : Term) :
    depthAfter depth t = none ↔ depth = 0 ∧ t.isLive ∧ t.operator = .closing := by
  cases deleted : t.deleted with
  | true => simp [depthAfter, Term.isLive, deleted]
  | false =>
    cases operator : t.operator <;> cases depth <;>
      simp [depthAfter, Term.isLive, deleted, operator]

/-- The position of the error is that of a closing parenthesis that takes part. -/
theorem checkFrom_unmatched {ts : List Term} {depth start position : Nat}
    (found : checkFrom depth start ts = .error (.unmatchedClosing position)) :
    ∃ k t, position = start + k ∧ ts[k]? = some t ∧ t.isLive ∧ t.operator = .closing := by
  induction ts generalizing depth start with
  | nil =>
    rw [checkFrom] at found
    split at found <;> cases found
  | cons t ts ih =>
    rw [checkFrom_cons] at found
    cases after : depthAfter depth t with
    | none =>
      obtain ⟨-, live, closing⟩ := (depthAfter_eq_none_iff depth t).mp after
      rw [after] at found
      cases found
      exact ⟨0, t, rfl, rfl, live, closing⟩
    | some depth =>
      rw [after] at found
      obtain ⟨k, u, atK, here, live, closing⟩ := ih found
      exact ⟨k + 1, u, by omega, here, live, closing⟩

end Balance

/-! ## The error that is shown and the one that compiling gives -/

def CompileError.structure? : CompileError → Option StructureError
  | structural cause => some cause
  | term _ _ => none
  | stack _ => none

namespace Filter

def shownFault (f : Filter) : Option StructureError := failure? (Balance.check f.orderedTerms)

def compiledFault {π : Type} (b : Builder Id π) (f : Filter) : Option StructureError :=
  (cause? (b.filter f)).bind CompileError.structure?

variable {f : Filter} {position : Nat} {e : StructureError}

theorem shownFault_eq_some_iff :
    f.shownFault = some e ↔ Balance.check f.orderedTerms = .error e := by
  rw [shownFault]
  cases Balance.check f.orderedTerms <;> simp [failure?]

theorem structural_of_shownFault (shown : f.shownFault = some e) (r : Option Registry) :
    Invocation.structural f r = some e.message := by
  rw [Invocation.structural.eq_def, shownFault_eq_some_iff.mp shown]

theorem compiledFault_eq {π : Type} (b : Builder Id π) (f : Filter) :
    f.compiledFault b = f.shownFault.map (StructureError.amongLive f.orderedTerms) := by
  have allLive : ∀ t ∈ f.liveTerms, t.isLive := fun t => isLive_of_mem_liveTerms
  have checked : Balance.check f.liveTerms =
      (Balance.check f.orderedTerms).mapError (StructureError.amongLive f.orderedTerms) :=
    Balance.check_live f.orderedTerms
  rw [compiledFault, Builder.filter, b.cause?_liveTerms allLive, checked, shownFault]
  cases Balance.check f.orderedTerms with
  | error e => rfl
  | ok _ =>
    -- A filter with balanced parentheses fails with the error of a term, if it fails.
    change Option.bind (List.findSome? _ _) _ = none
    rw [Option.bind_eq_none_iff]
    intro e failed
    obtain ⟨p, _, failed⟩ := List.exists_of_findSome?_eq_some failed
    obtain ⟨cause, _, rfl⟩ := Option.map_eq_some_iff.mp failed
    rfl

/-- The parenthesis that both errors are about. -/
theorem closing_of_shownFault (shown : f.shownFault = some (.unmatchedClosing position)) :
    ∃ t, t.isLive ∧ t.operator = .closing ∧ f.orderedTerms[position]? = some t ∧
      f.liveTerms[livePosition f.orderedTerms position]? = some t := by
  obtain ⟨k, t, rfl, here, live, closing⟩ :=
    Balance.checkFrom_unmatched (shownFault_eq_some_iff.mp shown)
  rw [Nat.zero_add]
  exact ⟨t, live, closing, here, getElem?_livePosition here live⟩

theorem term_of_mem_issues {i : FilterIssue} (member : i ∈ f.issues) :
    ∃ t, f.liveTerms[i.position]? = some t ∧ i.issue ∈ t.issues := by
  obtain ⟨⟨t, n⟩, placed, found⟩ := List.mem_flatMap.mp member
  obtain ⟨issue, ofTerm, rfl⟩ := List.mem_map.mp found
  exact ⟨t, List.mem_zipIdx_iff_getElem?.mp placed, ofTerm⟩

theorem compiledFault_eq_shownFault_iff {π : Type} (b : Builder Id π) :
    f.compiledFault b = f.shownFault ↔
      ∀ n, f.shownFault = some (.unmatchedClosing n) → ∀ t ∈ f.orderedTerms.take n, t.isLive := by
  rw [compiledFault_eq]
  cases shown : f.shownFault with
  | none => simp
  | some e =>
    cases e with
    | unclosedOpening depth => simp [StructureError.amongLive]
    | unmatchedClosing position =>
      obtain ⟨t, _, _, here, _⟩ := closing_of_shownFault shown
      have within : position ≤ f.orderedTerms.length :=
        Nat.le_of_lt (List.getElem?_eq_some_iff.mp here).1
      simp [StructureError.amongLive, livePosition_eq_iff within]

/-- The check command and the compiler find the same parenthesis. Compiling numbers it among the
terms that take part, as issues are numbered; the number that is shown counts the deleted terms
before it too. So there is one number exactly if no deleted term stands before it. -/
theorem faults_alike_iff {π : Type} (b : Builder Id π) (f : Filter) :
    f.compiledFault b = f.shownFault.map (StructureError.amongLive f.orderedTerms) ∧
    (f.compiledFault b = f.shownFault ↔
      ∀ n, f.shownFault = some (.unmatchedClosing n) → ∀ t ∈ f.orderedTerms.take n, t.isLive) ∧
    (∀ n, f.shownFault = some (.unmatchedClosing n) →
      ∃ t, t.isLive ∧ t.operator = .closing ∧ f.orderedTerms[n]? = some t ∧
        f.liveTerms[livePosition f.orderedTerms n]? = some t) ∧
    (∀ e, f.shownFault = some e → ∀ r, Invocation.structural f r = some e.message) ∧
    ∀ i ∈ f.issues, ∃ t, f.liveTerms[i.position]? = some t ∧ i.issue ∈ t.issues :=
  ⟨compiledFault_eq b f, compiledFault_eq_shownFault_iff b, fun _ => closing_of_shownFault,
    fun _ => structural_of_shownFault, fun _ => term_of_mem_issues⟩

/-- A lone closing parenthesis between a deleted term and one that has only a field yet. -/
def deletedFirst : Filter where
  model := "shop.Order"
  terms := [(Term.control .and).markDeleted, Term.control .closing, { fields := ["total"] }]

def deletedLast : Filter where
  model := "shop.Order"
  terms := [Term.control .closing, { fields := ["total"] }, (Term.control .and).markDeleted]

theorem deletedFirst_orderedTerms : deletedFirst.orderedTerms = deletedFirst.terms :=
  List.mergeSort_of_pairwise (by decide)

theorem deletedLast_orderedTerms : deletedLast.orderedTerms = deletedLast.terms :=
  List.mergeSort_of_pairwise (by decide)

theorem deletedFirst_shownFault : deletedFirst.shownFault = some (.unmatchedClosing 1) := by
  rw [shownFault, deletedFirst_orderedTerms]
  rfl

theorem deletedLast_shownFault : deletedLast.shownFault = some (.unmatchedClosing 0) := by
  rw [shownFault, deletedLast_orderedTerms]
  rfl

theorem deletedFirst_issues : deletedFirst.issues = [⟨1, .noLookup⟩, ⟨1, .noValue⟩] := by
  rw [issues, liveTerms, deletedFirst_orderedTerms]
  rfl

/-- Compiling names the parenthesis as the first term. The report calls it the second, a number that
it gives to the unfinished condition as well. -/
theorem faults_differ_deletedFirst :
    deletedFirst.compiledFault (conditionBuilder none) = some (.unmatchedClosing 0) ∧
    deletedFirst.compiledFault (conditionBuilder none) ≠ deletedFirst.shownFault ∧
    (Invocation.checked deletedFirst none false).printed =
      "term #2: lookup: Missing value\nterm #2: value: Missing value\n" ++
        "missing opening parenthesis for ')' at term #2\n" := by
  have compiled : deletedFirst.compiledFault (conditionBuilder none) =
      some (.unmatchedClosing 0) := by
    rw [compiledFault_eq, deletedFirst_shownFault, deletedFirst_orderedTerms]
    rfl
  refine ⟨compiled, ?_, ?_⟩
  · rw [compiled, deletedFirst_shownFault]
    decide
  · rw [Invocation.checked, structural_of_shownFault deletedFirst_shownFault, deletedFirst_issues]
    decide

theorem faults_alike_deletedLast : deletedLast.shownFault = some (.unmatchedClosing 0) ∧
    deletedLast.compiledFault (conditionBuilder none) = deletedLast.shownFault := by
  refine ⟨deletedLast_shownFault, (faults_alike_iff _ deletedLast).2.1.mpr ?_⟩
  intro n shown t before
  rw [deletedLast_shownFault] at shown
  cases shown
  cases before

end Filter
end SavedFilter
