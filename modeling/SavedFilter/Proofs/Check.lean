import SavedFilter.Proofs.Operand
import SavedFilter.Proofs.Plan

/-! # Checking and compiling

The check lists all the issues of a filter, and compiling it stops at the first error; both look at
the same things. A filter without issues and with balanced parentheses has a condition, and the
first issue of any other filter with balanced parentheses tells the error, `issues_tell`. The check
command finds no problem exactly in the filters that have a plan: `Filter.checked_as_compiled`. -/
set_option autoImplicit false
namespace SavedFilter

/-! ## The errors of values -/

def TermError.isOfValue : TermError → Bool
  | noValue _ | badDate _ | badDateRange _ | badNumber _ => true
  | noField | noLookup | unknownField _ _ => false

namespace Operand

variable {field : String} {lookup : Lookup} {raw : Option String} {text : String}
  {cause : TermError}

theorem ofDate_error (h : ofDate text = .error cause) : cause = .badDate text := by
  rw [ofDate] at h
  split at h
  · cases h
  · exact (Except.error.inj h).symm

/-- Values are refused for what they are, never for a field or a lookup that is not there. -/
theorem parse_error (h : parse field lookup raw = .error cause) : cause.isOfValue := by
  cases lookup with
  | isNull | isNotNull | isTrue | isFalse => cases h
  | contains | startsWith | endsWith =>
    obtain rfl | ⟨text, refused⟩ := required_bind_error h
    · rfl
    · cases refused
  | onDate =>
    obtain rfl | ⟨text, refused⟩ := required_bind_error h
    · rfl
    · obtain rfl := ofDate_error refused
      rfl
  | oneOf | dateRange | year | month | day =>
    obtain rfl | ⟨text, refused⟩ := required_bind_error h
    · rfl
    · -- Each has one error, for the texts that it cannot read.
      simp only [ofItems, ofDates, ofNumber] at refused
      split at refused <;> cases refused
      rfl
  | equals | less | greater | atMost | atLeast =>
    obtain rfl | ⟨text, refused⟩ := required_bind_error h
    · rfl
    · -- Only a field that holds dates makes these read the text.
      split at refused
      · obtain rfl := ofDate_error refused
        rfl
      · cases refused

end Operand

/-! ## One term -/

/-- The issue is in the slot that the error is about, with the hint for it if that is the value. -/
def Issue.Tells (i : Issue) (cause : TermError) : Prop :=
  match i.slot with
  | .field => cause = .noField
  | .lookup => cause = .noLookup
  | .value => cause.isOfValue ∧ i.message = cause.hint

def FilterIssue.Tells (i : FilterIssue) (e : CompileError) : Prop :=
  ∃ cause, e = .term i.position cause ∧ i.issue.Tells cause

namespace Term

theorem issues_mark {t : Term} (mark : t.isAtomic = false) : t.issues = [] := by
  simp [issues, mark]

theorem valueError?_eq (t : Term) (lookup : Lookup) :
    t.valueError? lookup = t.fields.findSome? fun field =>
      cause? ((conditionBuilder none).compare field lookup t.value) := by
  refine congrArg (List.findSome? · t.fields) (funext fun field => ?_)
  simp only [conditionBuilder, Condition.ofTerm_none]
  cases Operand.parse field lookup t.value <;> rfl

theorem isOfValue_of_valueError? {t : Term} {lookup : Lookup} {cause : TermError}
    (h : t.valueError? lookup = some cause) : cause.isOfValue := by
  obtain ⟨field, _, refused⟩ := List.exists_of_findSome?_eq_some h
  split at refused
  · cases refused
  · rename_i parsed
    cases refused
    exact Operand.parse_error parsed

/-- The form shows as first issue of a condition what it fails with. -/
theorem issues_tell {t : Term} (atomic : t.isAtomic) :
    Option.Rel Issue.Tells t.issues.head? (cause? ((conditionBuilder none).term t)) := by
  cases fields : t.fields with
  | nil =>
    rw [Builder.term_noField _ fields]
    simp only [issues, atomic, fields]
    exact .some rfl
  | cons first others =>
    have someField : t.fields ≠ [] := by simp [fields]
    cases lookupEq : t.lookup with
    | none =>
      rw [Builder.term_noLookup _ someField lookupEq]
      simp only [issues, atomic, fields, lookupEq]
      exact .some rfl
    | some lookup =>
      rw [Builder.cause?_term _ someField lookupEq, ← valueError?_eq]
      cases refused : t.valueError? lookup with
      | none =>
        simp only [issues, valueIssues, atomic, fields, lookupEq, refused]
        exact .none
      | some cause =>
        simp only [issues, valueIssues, atomic, fields, lookupEq, refused]
        exact .some ⟨isOfValue_of_valueError? refused, rfl⟩

end Term

/-! ## Filters -/

/-- The first issue of terms at their positions tells the first error of the conditions among
them. -/
theorem firstIssue_tells (ps : List (Term × Nat)) :
    Option.Rel FilterIssue.Tells
      (ps.findSome? fun p => (p.1.issues.map (FilterIssue.mk p.2)).head?)
      ((ps.filter (·.1.isAtomic)).findSome? fun p =>
        (cause? ((conditionBuilder none).term p.1)).map (CompileError.term p.2)) := by
  induction ps with
  | nil => exact .none
  | cons p ps ih =>
    rw [List.filter_cons, List.findSome?_cons]
    cases atomic : p.1.isAtomic with
    | false =>
      rw [Term.issues_mark atomic]
      exact ih
    | true =>
      rw [if_pos rfl, List.findSome?_cons, List.head?_map]
      -- Either both stop at this term or both go on.
      have told := Term.issues_tell atomic
      revert told
      generalize p.1.issues.head? = issue, cause? ((conditionBuilder none).term p.1) = cause
      rintro (told | _)
      · exact .some ⟨_, rfl, told⟩
      · exact ih

namespace Filter

theorem check_orderedTerms_iff (f : Filter) :
    Balance.check f.orderedTerms = .ok () ↔ Balance.check f.liveTerms = .ok () :=
  (Balance.check_live_eq_ok_iff f.orderedTerms).symm

/-- With balanced parentheses a filter fails with what its first issue tells. -/
theorem issues_tell {f : Filter} (balanced : Balance.check f.liveTerms = .ok ()) :
    Option.Rel FilterIssue.Tells f.issues.head? (cause? (f.condition none)) := by
  have allLive : ∀ t ∈ f.liveTerms, t.isLive := fun t => isLive_of_mem_liveTerms
  have firstError := (conditionBuilder none).cause?_liveTerms allLive
  rw [balanced] at firstError
  rw [issues, List.head?_flatMap, condition, Builder.filter, firstError]
  exact firstIssue_tells _

theorem sound_iff_compiles (f : Filter) :
    (f.issues = [] ∧ Balance.check f.orderedTerms = .ok ()) ↔ ∃ c, f.condition none = .ok c := by
  rw [check_orderedTerms_iff]
  constructor
  · rintro ⟨noIssue, balanced⟩
    have told := issues_tell balanced
    rw [noIssue, List.head?_nil] at told
    cases failed : cause? (f.condition none) with
    | none => exact (cause?_eq_none_iff _).mp failed
    | some e =>
      rw [failed] at told
      cases told
  · rintro ⟨c, compiled⟩
    have balanced := balanced_of_condition compiled
    have told := issues_tell balanced
    have noError : cause? (f.condition none) = none := (cause?_eq_none_iff _).mpr ⟨c, compiled⟩
    rw [noError] at told
    cases first : f.issues.head? with
    | none => exact ⟨List.head?_eq_none_iff.mp first, balanced⟩
    | some i =>
      rw [first] at told
      cases told

theorem error_of_issue {f : Filter} {i : FilterIssue} {rest : List FilterIssue}
    (balanced : Balance.check f.orderedTerms = .ok ()) (first : f.issues = i :: rest) :
    ∃ cause, f.condition none = .error (.term i.position cause) ∧ i.issue.Tells cause := by
  have told := issues_tell (f.check_orderedTerms_iff.mp balanced)
  rw [first, List.head?_cons] at told
  cases failed : cause? (f.condition none) with
  | none =>
    rw [failed] at told
    cases told
  | some e =>
    rw [failed] at told
    cases told with
    | some told =>
      obtain ⟨cause, rfl, told⟩ := told
      exact ⟨cause, (cause?_eq_some_iff _ _).mp failed, told⟩

end Filter

/-! ## The check command -/

namespace Invocation

/-- The report on a filter with a registry at hand, which is asked only if there is no issue and
the parentheses are balanced. -/
def checkedWith (f : Filter) (r : Registry) (json : Bool) : Outcome :=
  checked f (if isSound f then some r else none) json

theorem isSound_iff (f : Filter) : isSound f ↔ ∃ c, f.condition none = .ok c := by
  rw [← Filter.sound_iff_compiles, isSound, Bool.and_eq_true, List.isEmpty_iff]
  refine and_congr_right fun _ => ?_
  cases Balance.check f.orderedTerms with
  | ok _ => simp
  | error cause => simp

theorem structural_sound {f : Filter} (sound : isSound f) (r : Registry) :
    structural f (some r) = none ↔ ∃ p, Plan.build r f = .ok p := by
  obtain ⟨_, balanced⟩ := f.sound_iff_compiles.mpr ((isSound_iff f).mp sound)
  rw [structural, balanced]
  cases Plan.build r f with
  | ok p => simp
  | error cause => simp

theorem problem_of_unsound {f : Filter} (unsound : isSound f = false) :
    f.issues ≠ [] ∨ structural f none ≠ none := by
  cases balance : Balance.check f.orderedTerms with
  | error cause =>
    right
    simp [structural, balance]
  | ok _ =>
    left
    rintro noIssue
    simp [isSound, noIssue, balance] at unsound

theorem checked_failure (f : Filter) (r : Option Registry) (json : Bool) :
    (checked f r json).failure = none ↔ f.issues = [] ∧ structural f r = none := by
  simp only [checked]
  cases structural f r with
  | none => simp
  | some message => simp

theorem checkedWith_failure (f : Filter) (r : Registry) (json : Bool) :
    (checkedWith f r json).failure = none ↔ ∃ p, Plan.build r f = .ok p := by
  rw [checkedWith, checked_failure]
  cases sound : isSound f with
  | true =>
    have noIssue := (f.sound_iff_compiles.mpr ((isSound_iff f).mp sound)).1
    rw [if_pos rfl, structural_sound sound]
    exact and_iff_right noIssue
  | false =>
    constructor
    · rintro ⟨noIssue, noFault⟩
      cases problem_of_unsound sound with
      | inl issue => exact absurd noIssue issue
      | inr fault => exact absurd noFault fault
    · rintro ⟨p, built⟩
      have sound' := (isSound_iff f).mpr ⟨_, Plan.condition_of_build built⟩
      rw [sound] at sound'
      cases sound'

theorem checkedWith_problems (f : Filter) (r : Registry) (json : Bool) :
    ∃ k ≤ 1, (checkedWith f r json).failure =
      if 0 < f.issues.length + k then some (.badFilter (f.issues.length + k)) else none := by
  let whole := structural f (if isSound f then some r else none)
  refine ⟨if whole.isSome then 1 else 0, ?_, rfl⟩
  split
  · exact Nat.le_refl 1
  · exact Nat.zero_le 1

theorem attempt_check {m : Type → Type} [Monad m] [LawfulMonad m] (files : Files m)
    (filter registry : String) (json : Bool) :
    attempt files ⟨some registry, .check filter json⟩ = (do
      let f ← loadFilter files filter
      if isSound f then
        return checkedWith f (← loadRegistry files (some registry)) json
      else
        return checked f none json) := by
  rw [attempt]
  refine bind_congr fun f => ?_
  cases sound : isSound f with
  | true => simp [checkedWith, sound]
  | false => simp

end Invocation

/-- A filter without issues and with balanced parentheses is one that has a condition; the check
command finds no problem with a registry exactly if the filter has a plan, and otherwise counts the
issues and at most one fault of the whole. With balanced parentheses the first issue tells the
error of the condition. -/
theorem Filter.checked_as_compiled (f : Filter) :
    ((f.issues = [] ∧ Balance.check f.orderedTerms = .ok ()) ↔ ∃ c, f.condition none = .ok c) ∧
    (∀ r json, (∃ k ≤ 1, (Invocation.checkedWith f r json).failure =
        if 0 < f.issues.length + k then some (.badFilter (f.issues.length + k)) else none) ∧
      ((Invocation.checkedWith f r json).failure = none ↔ ∃ p, Plan.build r f = .ok p)) ∧
    (∀ {m : Type → Type} [Monad m] [LawfulMonad m] (files : Files m) (filter registry : String)
      (json : Bool), Invocation.attempt files ⟨some registry, .check filter json⟩ = (do
        let f ← Invocation.loadFilter files filter
        if Invocation.isSound f then
          return Invocation.checkedWith f
            (← Invocation.loadRegistry files (some registry)) json
        else
          return Invocation.checked f none json)) ∧
    ∀ i rest, Balance.check f.orderedTerms = .ok () → f.issues = i :: rest →
      ∃ cause, f.condition none = .error (.term i.position cause) ∧ i.issue.Tells cause := by
  refine ⟨f.sound_iff_compiles, fun r json => ⟨?_, ?_⟩, ?_, fun i rest => error_of_issue⟩
  · exact Invocation.checkedWith_problems f r json
  · exact Invocation.checkedWith_failure f r json
  · intro m _ _ files filter registry json
    exact Invocation.attempt_check files filter registry json

/-- A deleted term, a condition, and one that has only a field yet. -/
def unfinished : Filter where
  model := "shop.Order"
  terms := [Term.markDeleted {}, .atomic "customer__name" .equals (some "Ada"),
    { fields := ["total"] }]

theorem unfinished_orderedTerms : unfinished.orderedTerms = unfinished.terms :=
  List.mergeSort_of_pairwise (by decide)

theorem unfinished_issues : unfinished.issues = [⟨1, .noLookup⟩, ⟨1, .noValue⟩] := by
  rw [Filter.issues, Filter.liveTerms, unfinished_orderedTerms]
  rfl

theorem Filter.checked_as_compiled_unfinished : ∃ cause,
    unfinished.condition none = .error (.term 1 cause) ∧ Issue.noLookup.Tells cause := by
  have balanced : Balance.check unfinished.orderedTerms = .ok () := by
    rw [unfinished_orderedTerms]
    rfl
  exact (checked_as_compiled unfinished).2.2.2 _ _ balanced unfinished_issues

end SavedFilter
