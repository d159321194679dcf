import SavedFilter.Proofs.Compile.Regrouping
import SavedFilter.Proofs.Condition.Truth

/-! # Terms with several fields

A condition over several fields can be spelled out as a group with one condition for each field.
Where it is not negated the fields are alternatives, and the group compiles to the very same
predicate, for every builder: the term asks for the comparisons of its fields in the order in which
the group does. Where it is negated none of the fields may match: the group is a conjunction of
negations, another condition, but true of the same records. -/
set_option autoImplicit false
namespace SavedFilter

theorem throw_bind {m : Type → Type} [Monad m] [LawfulMonad m] {ε α β : Type} (e : ε)
    (f : α → ExceptT ε m β) : throw e >>= f = throw e := by
  apply ExceptT.ext
  exact pure_bind _ _

section Alternatives

variable {m : Type → Type} [Monad m] [LawfulMonad m] {π : Type} (b : Builder m π) {t : Term}

theorem Builder.term_only {lookup : Lookup} (lookupEq : t.lookup = some lookup)
    (field : String) :
    b.term (t.only field) = b.compare field lookup t.value >>= fun p =>
      if t.operator = .not then b.not p else return p := by
  have one : (t.only field).fields = [field] := rfl
  have same : (t.only field).lookup = some lookup := lookupEq
  rw [b.term_condition one same]
  refine bind_congr fun p => ?_
  rw [List.foldlM_nil, pure_bind]
  rfl

omit [LawfulMonad m] in
theorem Builder.term_only_noLookup (lookup : t.lookup = none) (field : String) :
    b.term (t.only field) = throw .noLookup := by
  have someField : (t.only field).fields ≠ [] := List.cons_ne_nil _ _
  exact b.term_noLookup someField lookup

/-- A term that is not negated is the disjunction of its fields. -/
theorem Builder.distributes_plain (plain : t.operator = .plain) :
    b.valuation.Distributes .or t := by
  intro first others fields
  have notNegated : t.operator ≠ .not := by simp [plain]
  change b.term t = b.term (t.only first) >>= others.foldlM (b.valuation.alternative .or t)
  cases lookup : t.lookup with
  | none =>
    have someField : t.fields ≠ [] := by simp [fields]
    rw [b.term_noLookup someField lookup, b.term_only_noLookup lookup, throw_bind]
  | some named =>
    have only (field : String) : b.term (t.only field) = b.compare field named t.value := by
      simp only [b.term_only lookup, if_neg notNegated, bind_pure]
    have alternative : b.valuation.alternative .or t = b.alternative named t.value := by
      funext p field
      rw [Valuation.alternative, Builder.alternative, ← only]
      rfl
    rw [b.term_condition fields lookup, only, alternative]
    simp only [if_neg notNegated, bind_pure]

end Alternatives

section Negations

variable (record : Json) {t : Term} {lookup : Lookup}

theorem recordTruth_only (lookupEq : t.lookup = some lookup) (negated : t.operator = .not)
    (field : String) :
    recordTruth record (t.only field) =
      (fun c => !c.holds record) <$> (conditionBuilder none).compare field lookup t.value := by
  rw [recordTruth, (conditionBuilder none).term_only lookupEq, map_bind, map_eq_pure_bind]
  refine bind_congr fun c => ?_
  rw [if_pos negated]
  rfl

/-- One more alternative of a condition is one more condition that must not hold. -/
theorem negated_alternative (lookupEq : t.lookup = some lookup) (negated : t.operator = .not)
    (c : Condition) (field : String) :
    (Valuation.ofTruth (recordTruth record)).alternative .and t (!c.holds record) field =
      (fun d => !d.holds record) <$>
        (conditionBuilder none).alternative lookup t.value c field := by
  have truth : (Valuation.ofTruth (recordTruth record)).term (t.only field) =
      (fun c => !c.holds record) <$> (conditionBuilder none).compare field lookup t.value :=
    recordTruth_only record lookupEq negated field
  rw [Valuation.alternative, truth, Builder.alternative, bind_map_left, map_bind]
  refine bind_congr fun d => ?_
  have both : (!c.holds record && !d.holds record) = !(Condition.or c d).holds record := by
    rw [Condition.holds, Bool.not_or]
  exact congrArg (pure (f := ExceptT TermError Id)) both

theorem negated_alternatives (lookupEq : t.lookup = some lookup) (negated : t.operator = .not)
    (fields : List String) (c : Condition) :
    (fun d => !d.holds record) <$>
        fields.foldlM ((conditionBuilder none).alternative lookup t.value) c =
      fields.foldlM ((Valuation.ofTruth (recordTruth record)).alternative .and t)
        (!c.holds record) := by
  induction fields generalizing c with
  | nil => rfl
  | cons field fields ih =>
    rw [List.foldlM_cons, List.foldlM_cons, map_bind,
      negated_alternative record lookupEq negated, bind_map_left]
    exact bind_congr fun d => ih d

/-- Whether a negated term holds of a record is told by its fields: it does when none of them
matches. -/
theorem distributes_not (negated : t.operator = .not) :
    (Valuation.ofTruth (recordTruth record)).Distributes .and t := by
  intro first others fields
  change recordTruth record t = recordTruth record (t.only first) >>= _
  cases lookup : t.lookup with
  | none =>
    have someField : t.fields ≠ [] := by simp [fields]
    rw [recordTruth, recordTruth, Builder.term_noLookup _ someField lookup,
      Builder.term_only_noLookup _ lookup]
    rfl
  | some named =>
    rw [recordTruth_only record lookup negated, bind_map_left, recordTruth,
      Builder.term_condition _ fields lookup, map_bind]
    refine bind_congr fun c => ?_
    rw [← negated_alternatives record lookup negated, map_bind, map_eq_pure_bind]
    refine bind_congr fun d => ?_
    rw [if_pos negated]
    rfl

end Negations

/-! ## Spelled out -/

/-- A term with several fields is a group, whatever terms stand before and behind it. Spelled out as
alternatives a plain term compiles to the same predicate, with the same effects, or is refused
alike; a negated one, spelled out as a conjunction, to a condition of the same records. -/
theorem several_fields_spelled {m : Type → Type} [Monad m] [LawfulMonad m] {π : Type}
    (front back : List Term) {t : Term} (fields : t.fields ≠ []) :
    (t.operator = .plain → ∀ b : Builder m π,
      (b.terms (front ++ t :: back)).adapt CompileError.unplaced =
        (b.terms (front ++ (t.spelled .or ++ back))).adapt CompileError.unplaced) ∧
    (t.operator = .not →
      Agree ((conditionBuilder none).terms (front ++ t :: back))
        ((conditionBuilder none).terms (front ++ (t.spelled .and ++ back)))) := by
  constructor
  · intro plain b
    have atomic : t.isAtomic := by simp [Term.isAtomic, plain, Operator.isAtomic]
    have values (tree : TermTree) : id <$> tree.value b.valuation = tree.value b.valuation :=
      id_map _
    have same := b.terms_spelled id values atomic fields (b.distributes_plain plain) front back
    rwa [id_map, id_map] at same
  · intro negated
    have atomic : t.isAtomic := by simp [Term.isAtomic, negated, Operator.isAtomic]
    apply agree_of_holds
    intro record
    exact (conditionBuilder none).terms_spelled _ (holds_value record) atomic fields
      (distributes_not record negated) front back

/-- A draft is spoken of in the title or in the summary, or in neither. -/
def draftAnywhere (operator : Operator) : Term :=
  { operator := operator, fields := ["title", "summary"], lookup := some .contains,
    value := some "draft" }

theorem several_fields_spelled_drafts :
    LawfulMonad Id ∧ (∀ operator, (draftAnywhere operator).fields ≠ []) ∧
      outcome? (symbolicBuilder.terms (openOr ++ draftAnywhere .plain :: notDraft)) =
        some ("or(status=open, and(or(title__icontains=draft, summary__icontains=draft), " ++
          "not(title__icontains=draft)))") ∧
      (symbolicBuilder.terms (openOr ++ draftAnywhere .plain :: notDraft)).adapt
          CompileError.unplaced =
        (symbolicBuilder.terms (openOr ++ ((draftAnywhere .plain).spelled .or ++ notDraft))).adapt
          CompileError.unplaced ∧
      Agree ((conditionBuilder none).terms (openOr ++ draftAnywhere .not :: notDraft))
        ((conditionBuilder none).terms
          (openOr ++ ((draftAnywhere .not).spelled .and ++ notDraft))) := by
  have fields (operator : Operator) : (draftAnywhere operator).fields ≠ [] := by
    simp [draftAnywhere]
  have alternatives := (several_fields_spelled openOr notDraft (fields .plain)).1 rfl
    symbolicBuilder
  have negations := (several_fields_spelled (m := Id) (π := Condition) openOr notDraft
    (fields .not)).2 rfl
  exact ⟨inferInstance, fields, by decide, alternatives, negations⟩

end SavedFilter
