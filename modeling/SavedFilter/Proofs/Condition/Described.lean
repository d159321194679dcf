import SavedFilter.Proofs.Condition.Compiled

/-! # Terms are shown as what they compile to

A term is shown field by field, with `OR` between its alternatives and `NOT` in front of a negated
one. It compiles to a disjunction nested to the left, perhaps negated, and that is shown with no
parentheses but those of the negation. The two texts are one, `Term.display_compiled_iff`, unless
the term is marked as deleted: then it is still shown, but nothing is compiled of it. -/
set_option autoImplicit false
namespace SavedFilter

/-! ## The condition of a single term -/

section Single

variable {m : Type → Type} [Monad m] [LawfulMonad m] {π : Type} (b : Builder m π) {t : Term}

theorem Builder.terms_single (atomic : t.isAtomic) (live : t.isLive) :
    b.terms [t] = (b.term t).adapt (CompileError.term 0) := by
  have kept : [t].filter Term.isLive = [t] := by simp [live]
  have reads : TermTree.Reads .disjunction [t].zipIdx (.condition 0 t) [] :=
    .conjunction (.operand (.condition atomic))
  have noMark : t.operator ≠ .opening ∧ t.operator ≠ .closing := by
    constructor <;> intro operator <;> simp [Term.isAtomic, operator, Operator.isAtomic] at atomic
  have balanced : Balance.check [t] = .ok () := Balance.checkFrom_other 0 0 [] noMark
  rw [terms, kept, b.liveTerms_of_reads balanced reads, TermTree.compile]

theorem Builder.terms_deleted (deleted : t.isLive = false) : b.terms [t] = b.always := by
  have leftOut : [t].filter Term.isLive = [] := by simp [deleted]
  have reads : TermTree.Reads .disjunction ([] : List Term).zipIdx .always [] :=
    .conjunction (.operand (.empty (by simp)))
  rw [terms, leftOut, b.liveTerms_of_reads rfl reads, TermTree.compile]

end Single

/-! ## Alternatives -/

theorem Condition.grouped_disjunct (c : Condition) (shown : String) :
    c.grouped 1 shown = shown := by
  cases c <;> rfl

namespace Term

variable {t : Term} {lookup : Lookup}

theorem display_comparison {field : String} {c : Condition}
    (compiled : (conditionBuilder none).compare field lookup t.value = pure c) :
    c.display = t.displayField lookup field := by
  have parsed : (Operand.parse field lookup t.value).map (Condition.compare field lookup) = .ok c :=
    (Condition.ofTerm_none field lookup t.value).symm.trans compiled
  rw [displayField]
  cases operandEq : Operand.parse field lookup t.value with
  | error cause =>
    rw [operandEq] at parsed
    cases parsed
  | ok operand =>
    rw [operandEq] at parsed
    cases parsed
    rfl

/-- One more alternative is shown behind those before it. -/
theorem display_alternatives {fields shown : List String} {p c : Condition}
    (compiled : fields.foldlM ((conditionBuilder none).alternative lookup t.value) p = pure c)
    (someShown : shown ≠ []) (before : p.display = " OR ".intercalate shown) :
    c.display = " OR ".intercalate (shown ++ fields.map (t.displayField lookup)) := by
  induction fields generalizing p shown with
  | nil =>
    obtain rfl : p = c := Except.ok.inj compiled
    rwa [List.map_nil, List.append_nil]
  | cons field fields ih =>
    rw [List.foldlM_cons, bind_eq_pure_iff] at compiled
    obtain ⟨q, one, later⟩ := compiled
    obtain ⟨r, compared, joined⟩ := bind_eq_pure_iff.mp one
    obtain rfl : Condition.or p r = q := lift_eq_pure_iff.mp joined
    have behind : (Condition.or p r).display =
        " OR ".intercalate (shown ++ [t.displayField lookup field]) := by
      rw [Condition.display, Condition.grouped_disjunct, Condition.grouped_disjunct, before,
        display_comparison compared, String.intercalate_append_of_ne_nil someShown (by simp),
        String.intercalate_singleton]
    rw [ih later (by simp) behind, List.append_assoc]
    rfl

theorem display_condition (atomic : t.isAtomic) (lookupEq : t.lookup = some lookup) :
    t.display =
      if t.operator = .not then
        "NOT(" ++ " OR ".intercalate (t.fields.map (t.displayField lookup)) ++ ")"
      else " OR ".intercalate (t.fields.map (t.displayField lookup)) := by
  rw [display, atomic, lookupEq]
  rfl

theorem display_term {c : Condition} (atomic : t.isAtomic)
    (compiled : (conditionBuilder none).term t = pure c) : t.display = c.display := by
  cases fields : t.fields with
  | nil =>
    rw [Builder.term_noField _ fields] at compiled
    cases compiled
  | cons first others =>
    cases lookupEq : t.lookup with
    | none =>
      rw [Builder.term_noLookup _ (by simp [fields]) lookupEq] at compiled
      cases compiled
    | some lookup =>
      rw [Builder.term_condition _ fields lookupEq] at compiled
      obtain ⟨p, compared, compiled⟩ := bind_eq_pure_iff.mp compiled
      obtain ⟨q, joined, negated⟩ := bind_eq_pure_iff.mp compiled
      have alternatives :
          q.display = " OR ".intercalate (t.fields.map (t.displayField lookup)) := by
        rw [display_alternatives joined (List.cons_ne_nil p.display [])
          String.intercalate_singleton.symm, display_comparison compared, fields]
        rfl
      rw [display_condition atomic lookupEq, ← alternatives]
      split at negated
      · rename_i operator
        obtain rfl : Condition.not q = c := lift_eq_pure_iff.mp negated
        rw [if_pos operator, Condition.display]
      · rename_i operator
        obtain rfl : q = c := Except.ok.inj negated
        rw [if_neg operator]

/-! ## Terms marked as deleted -/

/-- A term with no field shows nothing or an empty negation, and any other one shows a blank. -/
theorem display_ne_always (atomic : t.isAtomic) : t.display ≠ Condition.always.display := by
  have ofMem {x : Char} (shown : x ∈ t.display.toList) (foreign : x ∉ "TRUE".toList) :
      t.display ≠ "TRUE" := by
    intro same
    rw [same] at shown
    exact foreign shown
  cases lookupEq : t.lookup with
  | none =>
    refine ofMem (x := ' ') ?_ (by decide)
    rw [display, atomic, lookupEq]
    simp
  | some lookup =>
    by_cases negated : t.operator = .not
    · refine ofMem (x := '(') ?_ (by decide)
      rw [display_condition atomic lookupEq, if_pos negated]
      simp
    · cases fields : t.fields with
      | nil =>
        rw [display_condition atomic lookupEq, if_neg negated, fields, List.map_nil]
        decide
      | cons first others =>
        refine ofMem (x := ' ') ?_ (by decide)
        rw [display_condition atomic lookupEq, if_neg negated, fields]
        cases others <;> simp [displayField]

/-- A term that compiles is shown as its condition is, if it takes part. One that is marked as
deleted compiles to the condition that holds of every record, and is not shown as that. -/
theorem display_compiled_iff {c : Condition} (atomic : t.isAtomic)
    (compiled : (conditionBuilder none).terms [t] = pure c) :
    (t.display = c.display ↔ t.deleted = false) ∧ (t.deleted = true → c = .always) := by
  cases deleted : t.deleted with
  | false =>
    have live : t.isLive := by simp [isLive, deleted]
    rw [Builder.terms_single _ atomic live, adapt_eq_pure_iff] at compiled
    simp [display_term atomic compiled]
  | true =>
    have leftOut : t.isLive = false := by simp [isLive, deleted]
    rw [Builder.terms_deleted _ leftOut] at compiled
    obtain rfl : Condition.always = c := lift_eq_pure_iff.mp compiled
    simp [display_ne_always atomic]

/-- One value, a date for the first field and a text for the second one. -/
def notMidMarch : Term :=
  { operator := .not, fields := ["due_date", "title"], lookup := some .equals,
    value := some "15/03/2024" }

def midMarch : Condition :=
  .or (.compare "due_date" .equals (.scalar (.date ⟨2024, 3, 15, by decide⟩)))
    (.compare "title" .equals (.scalar (.string "15/03/2024")))

theorem display_compiled_iff_notMidMarch :
    notMidMarch.isAtomic ∧
      (conditionBuilder none).terms [notMidMarch] = pure (.not midMarch) ∧
      notMidMarch.display = (Condition.not midMarch).display ∧
      notMidMarch.display = "NOT(due_date == '2024-03-15' OR title == '15/03/2024')" := by
  have atomic : notMidMarch.isAtomic := rfl
  have compiled : (conditionBuilder none).terms [notMidMarch] = pure (.not midMarch) :=
    (outcome?_eq_some_iff _ _).mp (by decide +kernel)
  have same := (display_compiled_iff atomic compiled).1.mpr rfl
  exact ⟨atomic, compiled, same, by decide +kernel⟩

def deletedStatus : Term :=
  { fields := ["status"], lookup := some .equals, value := some "open", deleted := true }

/-- A term marked as deleted is shown, and what it compiles to is shown as another text. -/
theorem display_deletedStatus :
    deletedStatus.isAtomic ∧ (conditionBuilder none).terms [deletedStatus] = pure .always ∧
      deletedStatus.display = "status == 'open'" ∧ Condition.always.display = "TRUE" ∧
      deletedStatus.display ≠ Condition.always.display := by
  refine ⟨rfl, (conditionBuilder none).terms_deleted rfl, ?_⟩
  decide +kernel

end Term
end SavedFilter
