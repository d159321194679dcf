import SavedFilter.Plan
import SavedFilter.Proofs.Compile.Failure

/-! # The conditions of filters

What a filter compiles to compares the fields of its conditions and no others,
`mem_fields_condition`. A schema takes no part in that but to refuse fields: with one, a filter has
a condition exactly when it has it without one and the schema offers all of its fields,
`condition_schema_iff`. -/
set_option autoImplicit false
namespace SavedFilter

/-! ## The fields of a condition -/

namespace Condition

variable {path : String}

theorem mem_addField {fields : List String} {field : String} :
    path ∈ addField fields field ↔ path ∈ fields ∨ path = field := by
  rw [addField]
  split
  · rename_i present
    constructor
    · exact Or.inl
    · rintro (member | rfl)
      · exact member
      · exact present
  · simp

theorem mem_fieldsFrom (c : Condition) (fields : List String) :
    path ∈ c.fieldsFrom fields ↔ path ∈ fields ∨ path ∈ c.fields := by
  rw [Condition.fields]
  induction c generalizing fields with
  | always => simp [fieldsFrom]
  | compare field lookup operand => simp [fieldsFrom, mem_addField]
  | not c ih => exact ih fields
  | and left right ihLeft ihRight | or left right ihLeft ihRight =>
    simp only [fieldsFrom]
    rw [ihRight, ihLeft, ihRight (left.fieldsFrom []), or_assoc]

theorem mem_fields_compare {field : String} {lookup : Lookup} {operand : Operand} :
    path ∈ (compare field lookup operand).fields ↔ path = field := by
  simp [fields, fieldsFrom, mem_addField]

theorem fields_not (c : Condition) : (not c).fields = c.fields := rfl

theorem mem_fields_join (schema : Option Schema) (c : Connective) (left right : Condition) :
    path ∈ ((conditionBuilder schema).join c left right).run.fields ↔
      path ∈ left.fields ∨ path ∈ right.fields := by
  cases c with
  | and | or => exact mem_fieldsFrom right left.fields

end Condition

/-! ## Computations that succeed -/

section Pure

variable {ε ε' α β : Type}

theorem bind_eq_pure_iff {x : ExceptT ε Id α} {f : α → ExceptT ε Id β} {b : β} :
    x >>= f = pure b ↔ ∃ a, x = pure a ∧ f a = pure b := by
  simp only [← outcome?_eq_some_iff, outcome?_bind, Option.bind_eq_some_iff]

theorem adapt_eq_pure_iff {f : ε → ε'} {x : ExceptT ε Id α} {a : α} :
    x.adapt f = pure a ↔ x = pure a := by
  simp only [← outcome?_eq_some_iff, outcome?_adapt]

theorem lift_eq_pure_iff {x : Id α} {a : α} :
    (liftM x : ExceptT ε Id α) = pure a ↔ x.run = a := by
  rw [← outcome?_eq_some_iff]
  exact Option.some_inj

end Pure

/-! ## The fields of what is compiled -/

section Fields

variable {schema : Option Schema} {path : String}

theorem Condition.ofTerm_none (field : String) (lookup : Lookup) (value : Option String) :
    ofTerm none field lookup value =
      (Operand.parse field lookup value).map (compare field lookup) := by
  rw [ofTerm]
  cases Operand.parse field lookup value <;> rfl

theorem Condition.ofTerm_allowed {s : Schema} {field : String} (allowed : s.allows field)
    (lookup : Lookup) (value : Option String) :
    ofTerm (some s) field lookup value = ofTerm none field lookup value := by
  simp only [ofTerm, Schema.check, if_pos allowed]
  rfl

theorem Condition.ofTerm_refused {s : Schema} {field : String} (refused : s.allows field = false)
    (lookup : Lookup) (value : Option String) :
    ofTerm (some s) field lookup value = .error (.unknownField s.qualifiedName field) := by
  simp only [ofTerm, Schema.check, refused]
  rfl

theorem Condition.eq_compare_of_ofTerm {field : String} {lookup : Lookup} {value : Option String}
    {c : Condition} (h : ofTerm schema field lookup value = .ok c) :
    ∃ operand, c = compare field lookup operand := by
  have unbound (h : ofTerm none field lookup value = .ok c) :
      ∃ operand, c = compare field lookup operand := by
    rw [ofTerm_none] at h
    cases parsed : Operand.parse field lookup value with
    | error cause =>
      rw [parsed] at h
      cases h
    | ok operand =>
      rw [parsed] at h
      cases h
      exact ⟨operand, rfl⟩
  cases schema with
  | none => exact unbound h
  | some s =>
    cases allowed : s.allows field with
    | false =>
      rw [ofTerm_refused allowed] at h
      cases h
    | true =>
      rw [ofTerm_allowed allowed] at h
      exact unbound h

theorem mem_fields_comparison {field : String} {lookup : Lookup} {value : Option String}
    {c : Condition} (h : (conditionBuilder schema).compare field lookup value = pure c) :
    path ∈ c.fields ↔ path = field := by
  obtain ⟨operand, rfl⟩ := Condition.eq_compare_of_ofTerm h
  exact Condition.mem_fields_compare

theorem mem_fields_alternatives {lookup : Lookup} {value : Option String} {fields : List String}
    {p c : Condition}
    (h : fields.foldlM ((conditionBuilder schema).alternative lookup value) p = pure c) :
    path ∈ c.fields ↔ path ∈ p.fields ∨ path ∈ fields := by
  induction fields generalizing p with
  | nil =>
    obtain rfl : p = c := Except.ok.inj h
    simp
  | cons field fields ih =>
    rw [List.foldlM_cons, bind_eq_pure_iff] at h
    obtain ⟨q, one, later⟩ := h
    obtain ⟨r, compared, joined⟩ := bind_eq_pure_iff.mp one
    obtain rfl := lift_eq_pure_iff.mp joined
    rw [ih later, Condition.mem_fields_join, mem_fields_comparison compared, List.mem_cons,
      or_assoc]

theorem mem_fields_term {t : Term} {c : Condition} (h : (conditionBuilder schema).term t = pure c) :
    path ∈ c.fields ↔ path ∈ t.fields := by
  cases fields : t.fields with
  | nil =>
    rw [Builder.term_noField _ fields] at h
    cases h
  | cons first others =>
    cases lookupEq : t.lookup with
    | none =>
      rw [Builder.term_noLookup _ (by simp [fields]) lookupEq] at h
      cases h
    | some lookup =>
      rw [Builder.term_condition _ fields lookupEq] at h
      obtain ⟨p, compared, h⟩ := bind_eq_pure_iff.mp h
      obtain ⟨q, joined, negated⟩ := bind_eq_pure_iff.mp h
      have same : c.fields = q.fields := by
        split at negated
        · obtain rfl := lift_eq_pure_iff.mp negated
          exact Condition.fields_not q
        · exact congrArg Condition.fields (Except.ok.inj negated).symm
      rw [same, mem_fields_alternatives joined, mem_fields_comparison compared, List.mem_cons]

theorem mem_fields_compile {tree : TermTree} {c : Condition}
    (h : tree.compile (conditionBuilder schema) = pure c) :
    path ∈ c.fields ↔ ∃ p ∈ tree.conditions, path ∈ p.1.fields := by
  induction tree generalizing c with
  | always =>
    obtain rfl := lift_eq_pure_iff.mp h
    have noFields : (conditionBuilder schema).always.run.fields = [] := rfl
    simp [TermTree.conditions, noFields]
  | condition position t =>
    rw [mem_fields_term (adapt_eq_pure_iff.mp h)]
    simp [TermTree.conditions]
  | join c left right ihLeft ihRight =>
    obtain ⟨p, leftEq, h⟩ := bind_eq_pure_iff.mp h
    obtain ⟨q, rightEq, joined⟩ := bind_eq_pure_iff.mp h
    obtain rfl := lift_eq_pure_iff.mp joined
    rw [Condition.mem_fields_join, ihLeft leftEq, ihRight rightEq]
    simp only [TermTree.conditions, List.mem_append, or_and_right, exists_or]

end Fields

/-! ## With and without a schema -/

/-- The schema offers every field of the conditions that take part. -/
def Filter.AllowedBy (f : Filter) (s : Schema) : Prop :=
  ∀ t ∈ f.liveTerms, t.isAtomic → ∀ field ∈ t.fields, s.allows field

section Schema

variable {s : Schema}

theorem comparison_allowed {field : String} (allowed : s.allows field) (lookup : Lookup)
    (value : Option String) : (conditionBuilder (some s)).compare field lookup value =
      (conditionBuilder none).compare field lookup value := by
  simp only [conditionBuilder, Condition.ofTerm_allowed allowed]

theorem alternatives_allowed (lookup : Lookup) (value : Option String) {fields : List String}
    (allowed : ∀ field ∈ fields, s.allows field) (p : Condition) :
    fields.foldlM ((conditionBuilder (some s)).alternative lookup value) p =
      fields.foldlM ((conditionBuilder none).alternative lookup value) p := by
  induction fields generalizing p with
  | nil => rfl
  | cons field fields ih =>
    have one : (conditionBuilder (some s)).alternative lookup value p field =
        (conditionBuilder none).alternative lookup value p field := by
      rw [Builder.alternative, comparison_allowed (allowed field (by simp))]
      rfl
    rw [List.foldlM_cons, List.foldlM_cons, one]
    exact bind_congr fun q => ih (fun other member => allowed other (by simp [member])) q

theorem term_allowed {t : Term} (allowed : ∀ field ∈ t.fields, s.allows field) :
    (conditionBuilder (some s)).term t = (conditionBuilder none).term t := by
  cases fields : t.fields with
  | nil => rw [Builder.term_noField _ fields, Builder.term_noField _ fields]
  | cons first others =>
    cases lookupEq : t.lookup with
    | none =>
      have someField : t.fields ≠ [] := by simp [fields]
      rw [Builder.term_noLookup _ someField lookupEq,
        Builder.term_noLookup _ someField lookupEq]
    | some lookup =>
      rw [fields] at allowed
      rw [Builder.term_condition _ fields lookupEq, Builder.term_condition _ fields lookupEq,
        comparison_allowed (allowed first (by simp))]
      refine bind_congr fun p => ?_
      rw [alternatives_allowed lookup t.value fun field member => allowed field (by simp [member])]
      rfl

theorem allows_of_term {t : Term} {c : Condition}
    (h : (conditionBuilder (some s)).term t = pure c) : ∀ field ∈ t.fields, s.allows field := by
  intro field member
  have someField : t.fields ≠ [] := List.ne_nil_of_mem member
  cases lookupEq : t.lookup with
  | none =>
    rw [Builder.term_noLookup _ someField lookupEq] at h
    cases h
  | some lookup =>
    -- A field that is not offered fails before its value is looked at, whatever the others do.
    have noneFails := Builder.cause?_term (conditionBuilder (some s)) someField lookupEq
    rw [h, cause?_pure, eq_comm, List.findSome?_eq_none_iff] at noneFails
    cases allowed : s.allows field with
    | true => rfl
    | false =>
      have fails := noneFails field member
      simp only [conditionBuilder, Condition.ofTerm_refused allowed] at fails
      cases fails

theorem compile_allowed {tree : TermTree}
    (allowed : ∀ p ∈ tree.conditions, ∀ field ∈ p.1.fields, s.allows field) :
    tree.compile (conditionBuilder (some s)) = tree.compile (conditionBuilder none) := by
  induction tree with
  | always => rfl
  | condition position t =>
    have allowedHere := allowed (t, position) (by simp [TermTree.conditions])
    rw [TermTree.compile, TermTree.compile, term_allowed allowedHere]
  | join c left right ihLeft ihRight =>
    rw [TermTree.compile, TermTree.compile,
      ihLeft fun p member => allowed p (by simp [TermTree.conditions, member]),
      ihRight fun p member => allowed p (by simp [TermTree.conditions, member])]
    rfl

end Schema

namespace Filter

theorem isLive_of_mem_liveTerms {f : Filter} {t : Term} (h : t ∈ f.liveTerms) : t.isLive :=
  (List.mem_filter.mp h).2

theorem exists_condition_iff (f : Filter) (property : Term → Prop) :
    (∃ p ∈ f.liveTerms.zipIdx.filter (·.1.isAtomic), property p.1) ↔
      ∃ t ∈ f.liveTerms, t.isAtomic ∧ property t := by
  constructor
  · rintro ⟨p, member, holds⟩
    obtain ⟨placed, atomic⟩ := List.mem_filter.mp member
    exact ⟨p.1, List.fst_mem_of_mem_zipIdx placed, atomic, holds⟩
  · rintro ⟨t, member, atomic, holds⟩
    rw [← List.zipIdx_map_fst 0 f.liveTerms] at member
    obtain ⟨p, placed, rfl⟩ := List.mem_map.mp member
    exact ⟨p, List.mem_filter.mpr ⟨placed, atomic⟩, holds⟩

theorem condition_of_unbalanced {f : Filter} {cause : StructureError}
    (unbalanced : Balance.check f.liveTerms = .error cause) (schema : Option Schema) :
    f.condition schema = .error (.structural cause) := by
  rw [condition, Builder.filter, Builder.liveTerms, unbalanced]
  rfl

theorem condition_of_balanced {f : Filter} (balanced : Balance.check f.liveTerms = .ok ()) :
    ∃ tree : TermTree, tree.conditions = f.liveTerms.zipIdx.filter (·.1.isAtomic) ∧
      ∀ schema, f.condition schema = tree.compile (conditionBuilder schema) := by
  obtain ⟨tree, _, reads⟩ := TermTree.ofTerms?_of_balanced (fun t => isLive_of_mem_liveTerms)
    ((Balance.check_eq_ok_iff f.liveTerms).mp balanced)
  have conditions := reads.conditions_append
  rw [List.filter_nil, List.append_nil] at conditions
  exact ⟨tree, conditions, fun schema => Builder.liveTerms_of_reads _ balanced reads⟩

theorem balanced_of_condition {f : Filter} {schema : Option Schema} {c : Condition}
    (h : f.condition schema = .ok c) : Balance.check f.liveTerms = .ok () := by
  cases checked : Balance.check f.liveTerms with
  | ok _ => rfl
  | error cause =>
    rw [condition_of_unbalanced checked] at h
    cases h

theorem mem_fields_condition {f : Filter} {schema : Option Schema} {c : Condition}
    (h : f.condition schema = .ok c) (path : String) :
    path ∈ c.fields ↔ ∃ t ∈ f.liveTerms, t.isAtomic ∧ path ∈ t.fields := by
  obtain ⟨tree, conditions, compiled⟩ := condition_of_balanced (balanced_of_condition h)
  rw [mem_fields_compile ((compiled schema).symm.trans h), conditions]
  exact exists_condition_iff f fun t => path ∈ t.fields

theorem condition_allowed {f : Filter} {s : Schema} (allowed : f.AllowedBy s) :
    f.condition (some s) = f.condition none := by
  cases checked : Balance.check f.liveTerms with
  | error cause => rw [condition_of_unbalanced checked, condition_of_unbalanced checked]
  | ok _ =>
    obtain ⟨tree, conditions, compiled⟩ := condition_of_balanced checked
    rw [compiled, compiled]
    refine compile_allowed fun p member => ?_
    rw [conditions] at member
    obtain ⟨placed, atomic⟩ := List.mem_filter.mp member
    exact allowed p.1 (List.fst_mem_of_mem_zipIdx placed) atomic

theorem allowedBy_of_condition {f : Filter} {s : Schema} {c : Condition}
    (h : f.condition (some s) = .ok c) : f.AllowedBy s := by
  obtain ⟨tree, conditions, compiled⟩ := condition_of_balanced (balanced_of_condition h)
  have noneFails : cause? (tree.compile (conditionBuilder (some s))) = none := by
    rw [← compiled, h]
    rfl
  intro t member atomic
  obtain ⟨p, placed, rfl⟩ := (exists_condition_iff f (· = t)).mpr ⟨t, member, atomic, rfl⟩
  rw [TermTree.cause?_compile, List.findSome?_eq_none_iff, conditions] at noneFails
  have compiles := noneFails p placed
  rw [Option.map_eq_none_iff, cause?_eq_none_iff] at compiles
  obtain ⟨c, termEq⟩ := compiles
  exact allows_of_term termEq

/-- A schema leaves the condition of a filter as it is, or refuses the filter for a field. -/
theorem condition_schema_iff (f : Filter) (s : Schema) (c : Condition) :
    f.condition (some s) = .ok c ↔ f.condition none = .ok c ∧ f.AllowedBy s := by
  constructor
  · intro h
    have allowed := allowedBy_of_condition h
    exact ⟨(condition_allowed allowed).symm.trans h, allowed⟩
  · rintro ⟨h, allowed⟩
    exact (condition_allowed allowed).trans h

end Filter

end SavedFilter
