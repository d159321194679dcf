import SavedFilter.Compile.Symbolic
import SavedFilter.Condition.Build
import SavedFilter.Issue
import SavedFilter.Proofs.Compile.Valuation
import SavedFilter.Proofs.Operand

/-! # Cleaned terms

Cleaning drops from a term what its operator or its lookup has no use for, and nothing that anyone
looks at. A builder that ignores the values of lookups without a value makes the same of a condition
and of the cleaned one, so terms may be changed in this way at their places, `Builder.terms_map`;
the form shows the same issues, and the term reads the same: `Term.cleaned_unobserved`. -/
set_option autoImplicit false
namespace SavedFilter

/-! ## Terms changed at their places -/

section Keeps

variable {m : Type → Type} [Monad m] {π : Type} {b : Builder m π} {f : Term → Term}

/-- The change of terms leaves what a builder makes of a condition, and whatever else decides what
a term does among others. -/
structure Builder.Keeps (b : Builder m π) (f : Term → Term) : Prop where
  operator : ∀ t, (f t).operator = t.operator
  deleted : ∀ t, (f t).deleted = t.deleted
  term : ∀ t, t.isAtomic → b.term (f t) = b.term t

namespace Builder.Keeps

theorem isLive (keeps : b.Keeps f) (t : Term) : (f t).isLive = t.isLive := by
  rw [Term.isLive, keeps.deleted, Term.isLive]

theorem isAtomic (keeps : b.Keeps f) (t : Term) : (f t).isAtomic = t.isAtomic := by
  rw [Term.isAtomic, keeps.operator, Term.isAtomic]

theorem startsOperand (keeps : b.Keeps f) (t : Term) :
    (f t).startsOperand = t.startsOperand := by
  rw [Term.startsOperand, keeps.isAtomic, keeps.operator, Term.startsOperand]

theorem checkFrom (keeps : b.Keeps f) (depth position : Nat) (ts : List Term) :
    Balance.checkFrom depth position (ts.map f) = Balance.checkFrom depth position ts := by
  induction ts generalizing depth position with
  | nil => rfl
  | cons t ts ih =>
    have step : Balance.depthAfter depth (f t) = Balance.depthAfter depth t := by
      simp only [Balance.depthAfter, keeps.deleted, keeps.operator]
    rw [List.map_cons, Balance.checkFrom_cons, Balance.checkFrom_cons, step]
    cases Balance.depthAfter depth t with
    | none => rfl
    | some depth => exact ih depth (position + 1)

theorem reads (keeps : b.Keeps f) {phrase : TermTree.Phrase} {ts rest : List PlacedTerm}
    {tree : TermTree} (h : TermTree.Reads phrase ts tree rest) :
    ∃ tree', TermTree.Reads phrase (ts.map (Prod.map f id)) tree' (rest.map (Prod.map f id)) ∧
      tree'.compile b = tree.compile b := by
  induction h with
  | @condition t n ts atomic =>
    have atomic' : (f t).isAtomic := by rwa [keeps.isAtomic]
    refine ⟨_, .condition atomic', ?_⟩
    rw [TermTree.compile, keeps.term t atomic]
    rfl
  | group opening _ closing ih =>
    obtain ⟨tree', inner, same⟩ := ih
    exact ⟨tree', .group ((keeps.operator _).trans opening) inner
      ((keeps.operator _).trans closing), same⟩
  | @empty ts noneStarts =>
    refine ⟨_, .empty ?_, rfl⟩
    cases ts with
    | nil => simp
    | cons p ts =>
      intro q first
      cases first
      exact (keeps.startsOperand p.1).trans (noneStarts p rfl)
  | operand _ ih =>
    obtain ⟨tree', only, same⟩ := ih
    exact ⟨tree', .operand only, same⟩
  | and _ mark _ ihFirst ihLast =>
    obtain ⟨left, first, leftSame⟩ := ihFirst
    obtain ⟨right, last, rightSame⟩ := ihLast
    refine ⟨_, .and first ((keeps.operator _).trans mark) last, ?_⟩
    rw [TermTree.compile, leftSame, rightSame, TermTree.compile]
  | adjacent _ starts _ ihFirst ihLast =>
    obtain ⟨left, first, leftSame⟩ := ihFirst
    obtain ⟨right, last, rightSame⟩ := ihLast
    refine ⟨_, .adjacent first ((keeps.startsOperand _).trans starts) last, ?_⟩
    rw [TermTree.compile, leftSame, rightSame, TermTree.compile]
  | conjunction _ ih =>
    obtain ⟨tree', only, same⟩ := ih
    exact ⟨tree', .conjunction only, same⟩
  | or _ mark _ ihFirst ihLast =>
    obtain ⟨left, first, leftSame⟩ := ihFirst
    obtain ⟨right, last, rightSame⟩ := ihLast
    refine ⟨_, .or first ((keeps.operator _).trans mark) last, ?_⟩
    rw [TermTree.compile, leftSame, rightSame, TermTree.compile]

end Builder.Keeps

/-- Terms changed at their places compile to the same predicate, with the same effects, or are
refused at the same position. -/
theorem Builder.terms_map [LawfulMonad m] (keeps : b.Keeps f) (ts : List Term) :
    b.terms (ts.map f) = b.terms ts := by
  have live : (ts.map f).filter Term.isLive = (ts.filter Term.isLive).map f := by
    rw [List.filter_map]
    refine congrArg (List.map f) (List.filter_congr fun t _ => ?_)
    exact keeps.isLive t
  have checked : Balance.check ((ts.filter Term.isLive).map f) =
      Balance.check (ts.filter Term.isLive) := keeps.checkFrom 0 0 _
  rw [terms, terms, live]
  cases balance : Balance.check (ts.filter Term.isLive) with
  | error cause => rw [liveTerms, liveTerms, checked, balance]
  | ok _ =>
    obtain ⟨tree, reads⟩ := TermTree.reads_of_check ts balance
    obtain ⟨tree', reads', same⟩ := keeps.reads reads
    rw [← List.zipIdx_map] at reads'
    rw [b.liveTerms_of_reads balance reads, b.liveTerms_of_reads (checked.trans balance) reads',
      same]

end Keeps

/-! ## Values without use -/

section Unused

variable {lookup : Lookup}

variable {m : Type → Type} [Monad m] {π : Type}

/-- The builder does not look at the value of a lookup that takes none. -/
def Builder.IgnoresUnused (b : Builder m π) : Prop :=
  ∀ field lookup value, lookup.takesValue = false →
    b.compare field lookup value = b.compare field lookup none

theorem symbolicBuilder_ignoresUnused : symbolicBuilder.IgnoresUnused := by
  intro field lookup value untaken
  cases lookup with
  | isNull | isTrue | isNotNull | isFalse => rfl
  | equals | contains | startsWith | endsWith | oneOf | onDate | dateRange | year | month | day
  | less | greater | atMost | atLeast => cases untaken

theorem conditionBuilder_ignoresUnused (schema : Option Schema) :
    (conditionBuilder schema).IgnoresUnused := by
  intro field lookup value untaken
  obtain ⟨operand, parsed⟩ := Operand.parse_untaken untaken field
  simp only [conditionBuilder, Condition.ofTerm, parsed]

theorem Builder.IgnoresUnused.alternative {b : Builder m π} (ignores : b.IgnoresUnused)
    (untaken : lookup.takesValue = false) (value : Option String) :
    b.alternative lookup value = b.alternative lookup none := by
  funext p field
  rw [Builder.alternative, ignores field lookup value untaken, Builder.alternative]

end Unused

/-! ## Cleaning -/

namespace Term

variable {t : Term} {lookup : Lookup}

theorem cleaned_keeps (t : Term) :
    t.cleaned.operator = t.operator ∧ t.cleaned.deleted = t.deleted := by
  rw [cleaned]
  split
  · exact ⟨rfl, rfl⟩
  · split
    · split <;> exact ⟨rfl, rfl⟩
    · exact ⟨rfl, rfl⟩

theorem cleaned_isAtomic (t : Term) : t.cleaned.isAtomic = t.isAtomic := by
  rw [isAtomic, t.cleaned_keeps.1, isAtomic]

def withoutValue (t : Term) : Term := { t with value := none }

theorem cleaned_mark (mark : t.isAtomic = false) :
    t.cleaned = { t with fields := [], lookup := none, value := none } := by
  rw [cleaned, mark]
  rfl

/-- A condition loses its value where its lookup takes none, and nothing else. -/
theorem cleaned_condition (atomic : t.isAtomic) :
    (t.cleaned = t ∧ ∀ lookup, t.lookup = some lookup → lookup.takesValue) ∨
      ∃ lookup, t.lookup = some lookup ∧ lookup.takesValue = false ∧
        t.cleaned = t.withoutValue := by
  rw [cleaned, atomic]
  cases lookupEq : t.lookup with
  | none => exact .inl ⟨rfl, by simp⟩
  | some lookup =>
    cases takes : lookup.takesValue with
    | true => exact .inl ⟨by simp [takes], by simp [takes]⟩
    | false => exact .inr ⟨lookup, rfl, takes, by simp [takes, withoutValue, lookupEq]⟩

section Untaken

variable (lookupEq : t.lookup = some lookup) (untaken : lookup.takesValue = false)
include lookupEq untaken

theorem term_withoutValue {m : Type → Type} [Monad m] {π : Type} {b : Builder m π}
    (ignores : b.IgnoresUnused) : b.term t.withoutValue = b.term t := by
  cases fields : t.fields with
  | nil => rw [b.term_noField fields, b.term_noField (t := t.withoutValue) fields]
  | cons first others =>
    have alike (field : String) : b.compare field lookup t.value = b.compare field lookup none :=
      ignores field lookup t.value untaken
    have alikeOthers : b.alternative lookup t.value = b.alternative lookup none :=
      ignores.alternative untaken t.value
    rw [b.term_condition fields lookupEq, alike, alikeOthers]
    exact b.term_condition (t := t.withoutValue) fields lookupEq

theorem display_withoutValue : t.withoutValue.display = t.display := by
  have fieldAlike (field : String) :
      t.withoutValue.displayField lookup field = t.displayField lookup field := by
    obtain ⟨operand, parsed⟩ := Operand.parse_untaken untaken field
    rw [displayField, displayField, parsed, parsed]
  have alike : t.withoutValue.displayField lookup = t.displayField lookup := funext fieldAlike
  have lookupEq' : t.withoutValue.lookup = some lookup := lookupEq
  rw [display, display, lookupEq, lookupEq']
  simp only [alike]
  rfl

theorem issues_withoutValue : t.withoutValue.issues = t.issues := by
  have noError (u : Term) : u.valueError? lookup = none := by
    refine List.findSome?_eq_none_iff.mpr fun field _ => ?_
    obtain ⟨operand, parsed⟩ := Operand.parse_untaken untaken field
    rw [parsed]
  have noIssue (u : Term) : u.valueIssues lookup = [] := by
    rw [valueIssues, noError u, untaken]
    simp
  have lookupEq' : t.withoutValue.lookup = some lookup := lookupEq
  rw [issues, issues, lookupEq, lookupEq']
  simp only [noIssue]
  rfl

end Untaken

/-- The term carries nothing that its operator or its lookup has no use for. -/
def IsClean (t : Term) : Prop :=
  if t.isAtomic then ∀ lookup, t.lookup = some lookup → lookup.takesValue = false → t.value = none
  else t.fields = [] ∧ t.lookup = none ∧ t.value = none

theorem isClean_cleaned (t : Term) : t.cleaned.IsClean := by
  rw [IsClean, cleaned_isAtomic]
  cases atomic : t.isAtomic with
  | false =>
    rw [cleaned_mark atomic]
    exact ⟨rfl, rfl, rfl⟩
  | true =>
    intro lookup lookupEq untaken
    obtain ⟨same, allTake⟩ | ⟨_, _, _, cleaned⟩ := cleaned_condition atomic
    · rw [same] at lookupEq
      rw [allTake lookup lookupEq] at untaken
      cases untaken
    · rw [cleaned, withoutValue]

theorem cleaned_of_isClean (clean : t.IsClean) : t.cleaned = t := by
  cases atomic : t.isAtomic with
  | false =>
    rw [cleaned_mark atomic]
    simp only [IsClean, atomic] at clean
    obtain ⟨operator, fields, lookup, value, order, deleted⟩ := t
    obtain ⟨rfl, rfl, rfl⟩ := clean
    rfl
  | true =>
    obtain ⟨same, _⟩ | ⟨lookup, lookupEq, untaken, cleaned⟩ := cleaned_condition atomic
    · exact same
    · rw [IsClean, if_pos atomic] at clean
      rw [cleaned, withoutValue, ← clean lookup lookupEq untaken]

theorem issues_cleaned (t : Term) : t.cleaned.issues = t.issues := by
  cases atomic : t.isAtomic with
  | false =>
    rw [issues, issues, cleaned_isAtomic, atomic]
    rfl
  | true =>
    obtain ⟨same, _⟩ | ⟨lookup, lookupEq, untaken, cleaned⟩ := cleaned_condition atomic
    · rw [same]
    · rw [cleaned, issues_withoutValue lookupEq untaken]

theorem display_cleaned (t : Term) : t.cleaned.display = t.display := by
  cases atomic : t.isAtomic with
  | false =>
    rw [display, display, cleaned_isAtomic, t.cleaned_keeps.1, atomic]
    rfl
  | true =>
    obtain ⟨same, _⟩ | ⟨lookup, lookupEq, untaken, cleaned⟩ := cleaned_condition atomic
    · rw [same]
    · rw [cleaned, display_withoutValue lookupEq untaken]

theorem term_cleaned {m : Type → Type} [Monad m] {π : Type} {b : Builder m π}
    (ignores : b.IgnoresUnused) (atomic : t.isAtomic) : b.term t.cleaned = b.term t := by
  obtain ⟨same, _⟩ | ⟨lookup, lookupEq, untaken, cleaned⟩ := cleaned_condition atomic
  · rw [same]
  · rw [cleaned, term_withoutValue lookupEq untaken ignores]

end Term

theorem Builder.IgnoresUnused.terms_cleaned {m : Type → Type} [Monad m] [LawfulMonad m] {π : Type}
    {b : Builder m π} (ignores : b.IgnoresUnused) (ts : List Term) :
    b.terms (ts.map Term.cleaned) = b.terms ts := by
  have keeps : b.Keeps Term.cleaned :=
    ⟨fun t => t.cleaned_keeps.1, fun t => t.cleaned_keeps.2, fun _ => Term.term_cleaned ignores⟩
  exact Builder.terms_map keeps ts

/-- Cleaning the terms of a list changes neither what they compile to, or where and why they are
refused, nor the issues and the text of a term. Cleaned terms have nothing left to drop. -/
theorem Term.cleaned_unobserved (ts : List Term) :
    symbolicBuilder.terms (ts.map Term.cleaned) = symbolicBuilder.terms ts ∧
      (∀ schema, (conditionBuilder schema).terms (ts.map Term.cleaned) =
        (conditionBuilder schema).terms ts) ∧
      ∀ t : Term, t.cleaned.issues = t.issues ∧ t.cleaned.display = t.display ∧
        t.cleaned.IsClean ∧ t.cleaned.cleaned = t.cleaned := by
  refine ⟨?_, fun schema => ?_, fun t => ?_⟩
  · exact symbolicBuilder_ignoresUnused.terms_cleaned ts
  · exact (conditionBuilder_ignoresUnused schema).terms_cleaned ts
  · have clean : t.cleaned.IsClean := t.isClean_cleaned
    exact ⟨t.issues_cleaned, t.display_cleaned, clean, cleaned_of_isClean clean⟩

end SavedFilter
