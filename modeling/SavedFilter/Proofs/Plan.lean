import Mathlib.Data.List.TakeWhile
import SavedFilter.Command.Run
import SavedFilter.Proofs.Condition.Compiled
import SavedFilter.Proofs.Field

/-! # Plans

A schema only restricts what can be planned. A filter has a plan exactly when its model is known, it
has a condition without any schema, the schema offers its fields, and every path through a relation
goes through a declared one; the condition of the plan is then the one without a schema. Otherwise
the first of these that fails decides the error: `build_restricts`. -/
set_option autoImplicit false
namespace SavedFilter

def Schema.Declares (s : Schema) (path : String) : Prop :=
  ∃ relation ∈ s.relations, Field.Through path relation.name

/-- The path is what the key has behind the hyphens in front. -/
def SortKey.SortsBy (k : SortKey) (path : String) : Prop :=
  ∃ hyphens, k.field.toList = List.replicate hyphens '-' ++ path.toList ∧
    path.toList.head? ≠ some '-'

/-- The paths of a filter and its condition: the fields it compares, its columns, its sort keys. -/
def Filter.RefersTo (f : Filter) (c : Condition) (path : String) : Prop :=
  path ∈ c.fields ∨ (∃ k ∈ f.columns, k.field = path) ∨ ∃ k ∈ f.sortKeys, k.SortsBy path

/-- Every path of the filter with two underscores in a row goes through a declared relation. -/
def Filter.RelatedBy (f : Filter) (c : Condition) (s : Schema) : Prop :=
  ∀ path, f.RefersTo c path → ['_', '_'] <:+: path.toList → s.Declares path

theorem SortKey.column_eq_iff {k : SortKey} {path : String} : k.column = path ↔ k.SortsBy path := by
  constructor
  · rintro rfl
    refine ⟨(k.field.toList.takeWhile (· == '-')).length, ?_, ?_⟩
    · have hyphens : k.field.toList.takeWhile (· == '-') =
          List.replicate (k.field.toList.takeWhile (· == '-')).length '-' :=
        List.eq_replicate_of_mem fun c member => by simpa using List.mem_takeWhile_imp member
      rw [← hyphens, column, String.toList_ofList, List.takeWhile_append_dropWhile]
    · rw [column, String.toList_ofList]
      intro first
      have other := List.head?_dropWhile_not (· == '-') k.field.toList
      rw [first] at other
      simp at other
  · rintro ⟨hyphens, written, first⟩
    have kept : path.toList.dropWhile (· == '-') = path.toList := by
      cases cs : path.toList with
      | nil => rfl
      | cons c rest =>
        rw [cs] at first
        exact List.dropWhile_cons_of_neg (by simpa using first)
    rw [column, written, List.dropWhile_append_of_pos (by simp), kept, String.ofList_toList]

theorem Schema.declares_iff {s : Schema} {path : String} :
    s.Declares path ↔ ∃ relation ∈ s.relations, Field.qualifier? path = some relation.name := by
  simp only [Declares, Field.qualifier?_eq_some_iff]

theorem Schema.relation?_eq_none_iff (s : Schema) (path : String) :
    s.relation? path = none ↔ ¬ s.Declares path := by
  rw [relation?, declares_iff]
  cases Field.qualifier? path with
  | none => simp
  | some q =>
    simp only [Option.bind_some, List.find?_eq_none, beq_iff_eq, Option.some.injEq, not_exists,
      not_and, eq_comm (a := q)]

theorem Filter.mem_inOrder {α : Type} {key : α → UInt32} {xs : List α} {x : α} :
    x ∈ inOrder key xs ↔ x ∈ xs := List.mem_mergeSort

theorem Registry.resolve_error {r : Registry} {name : String} {e : PlanError}
    (h : r.resolve name = .error e) : e = .unknownModel name := by
  rw [resolve] at h
  cases found : r.find? name with
  | some s =>
    rw [found] at h
    cases h
  | none =>
    rw [found] at h
    exact (Except.error.inj h).symm

namespace Plan

def sortColumns (f : Filter) : List SortColumn :=
  f.orderedSortKeys.map fun k => ⟨k.column, k.isDescending⟩

def paths (f : Filter) (c : Condition) : List String :=
  c.fields ++ f.orderedColumns.map Column.field ++ (sortColumns f).map SortColumn.field

def ofCondition (s : Schema) (f : Filter) (c : Condition) : Plan :=
  ⟨f.name, s.qualifiedName, c, queryOf s c (f.orderedColumns.map Column.field) (sortColumns f)⟩

theorem mem_paths {f : Filter} {c : Condition} {path : String} :
    path ∈ paths f c ↔ f.RefersTo c path := by
  simp only [paths, sortColumns, Filter.RefersTo, List.mem_append, List.mem_map, List.map_map,
    Filter.orderedColumns, Filter.orderedSortKeys, Filter.mem_inOrder, Function.comp_apply,
    SortKey.column_eq_iff, or_assoc]

theorem missing?_eq_none_iff {s : Schema} {f : Filter} {c : Condition} :
    missing? s (paths f c) = none ↔ f.RelatedBy c s := by
  simp [missing?, Filter.RelatedBy, List.find?_eq_none, mem_paths, Schema.relation?_eq_none_iff,
    Field.isRelated_iff]

theorem of_missing?_eq_some {s : Schema} {f : Filter} {c : Condition} {path : String}
    (h : missing? s (paths f c) = some path) :
    f.RefersTo c path ∧ ['_', '_'] <:+: path.toList ∧ ¬ s.Declares path := by
  have undeclared := List.find?_some h
  rw [Bool.and_eq_true, Field.isRelated_iff, Option.isNone_iff_eq_none,
    Schema.relation?_eq_none_iff] at undeclared
  exact ⟨mem_paths.mp (List.mem_of_find?_eq_some h), undeclared⟩

theorem build_eq (r : Registry) (f : Filter) :
    build r f =
      match r.resolve f.model with
      | .error e => .error e
      | .ok s =>
        match f.condition (some s) with
        | .error cause => .error (.compile cause)
        | .ok c =>
          match missing? s (paths f c) with
          | some path => .error (.missingRelation s.qualifiedName path)
          | none => .ok (ofCondition s f c) := by
  rw [build]
  cases r.resolve f.model with
  | error e => rfl
  | ok s =>
    simp only [bind, Except.bind]
    cases f.condition (some s) <;> rfl

/-- A filter has a plan exactly when its model is known, it has a condition for any fields, and the
schema offers its fields and declares its relations. The plan has that condition. -/
theorem build_eq_ok_iff {r : Registry} {f : Filter} {p : Plan} :
    build r f = .ok p ↔ ∃ s c, r.resolve f.model = .ok s ∧ f.condition none = .ok c ∧
      f.AllowedBy s ∧ f.RelatedBy c s ∧ ofCondition s f c = p := by
  constructor
  · -- Each of the three stages must have gone well, or the plan would be an error.
    intro h
    rw [build_eq] at h
    cases resolved : r.resolve f.model with
    | error e => simp [resolved] at h
    | ok s =>
      cases compiled : f.condition (some s) with
      | error cause => simp [resolved, compiled] at h
      | ok c =>
        cases undeclared : missing? s (paths f c) with
        | some path => simp [resolved, compiled, undeclared] at h
        | none =>
          simp only [resolved, compiled, undeclared] at h
          obtain ⟨unbound, allowed⟩ := (f.condition_schema_iff s c).mp compiled
          exact ⟨s, c, rfl, unbound, allowed, missing?_eq_none_iff.mp undeclared, Except.ok.inj h⟩
  · rintro ⟨s, c, resolved, unbound, allowed, related, rfl⟩
    have compiled := (f.condition_schema_iff s c).mpr ⟨unbound, allowed⟩
    simp only [build_eq, resolved, compiled, missing?_eq_none_iff.mpr related]

theorem condition_of_build {r : Registry} {f : Filter} {p : Plan} (h : build r f = .ok p) :
    f.condition none = .ok p.condition := by
  obtain ⟨s, c, _, unbound, _, _, rfl⟩ := build_eq_ok_iff.mp h
  exact unbound

theorem build_of_unresolved {r : Registry} {f : Filter} (h : ∀ s, r.resolve f.model ≠ .ok s) :
    build r f = .error (.unknownModel f.model) := by
  cases resolved : r.resolve f.model with
  | ok s => exact absurd resolved (h s)
  | error e =>
    obtain rfl := Registry.resolve_error resolved
    simp only [build_eq, resolved]

theorem build_of_uncompiled {r : Registry} {f : Filter} {s : Schema}
    (resolved : r.resolve f.model = .ok s)
    (refused : ∀ c, f.condition none = .ok c → ¬ f.AllowedBy s) :
    ∃ cause, build r f = .error (.compile cause) := by
  cases compiled : f.condition (some s) with
  | ok c =>
    obtain ⟨unbound, allowed⟩ := (f.condition_schema_iff s c).mp compiled
    exact absurd allowed (refused c unbound)
  | error cause => exact ⟨cause, by simp only [build_eq, resolved, compiled]⟩

theorem build_of_unrelated {r : Registry} {f : Filter} {s : Schema} {c : Condition}
    (resolved : r.resolve f.model = .ok s) (unbound : f.condition none = .ok c)
    (allowed : f.AllowedBy s) (unrelated : ¬ f.RelatedBy c s) :
    ∃ path, f.RefersTo c path ∧ ['_', '_'] <:+: path.toList ∧ ¬ s.Declares path ∧
      build r f = .error (.missingRelation s.qualifiedName path) := by
  have compiled := (f.condition_schema_iff s c).mpr ⟨unbound, allowed⟩
  cases undeclared : missing? s (paths f c) with
  | none => exact absurd (missing?_eq_none_iff.mp undeclared) unrelated
  | some path =>
    obtain ⟨refers, related, notDeclared⟩ := of_missing?_eq_some undeclared
    exact ⟨path, refers, related, notDeclared,
      by simp only [build_eq, resolved, compiled, undeclared]⟩

end Plan

/-- The condition that selects records is the same for a model of a registry and for any fields;
the registry is only asked whether the filter has a plan. -/
theorem Invocation.conditionOf_registry {m : Type → Type} [Monad m] [LawfulMonad m]
    (files : Files m) (path : String) (f : Filter) :
    conditionOf files (some path) f = (do
      let r ← loadRegistry files (some path)
      match Plan.build r f with
      | .ok _ => conditionOf files none f
      | .error cause => throw (.plan cause)) := by
  rw [conditionOf]
  refine bind_congr fun r => ?_
  cases built : Plan.build r f with
  | error cause =>
    rw [planned, built]
    exact pure_bind (Except.error (Failure.plan cause)) _
  | ok plan =>
    have unbound : conditionOf files none f = pure plan.condition := by
      rw [conditionOf, Plan.condition_of_build built]
      rfl
    rw [planned, built]
    exact (pure_bind (Except.ok plan) _).trans unbound.symm

/-- Planning is compiling for any fields, and then asking the schema. The condition of a plan is the
one without a registry and compares the fields of the filter. Without a plan the error is that of
the model, or else of the condition or the fields, or else of a relation. -/
theorem Plan.build_restricts (r : Registry) (f : Filter) :
    ((∃ p, build r f = .ok p) ↔ ∃ s c, r.resolve f.model = .ok s ∧ f.condition none = .ok c ∧
      f.AllowedBy s ∧ f.RelatedBy c s) ∧
    (∀ p, build r f = .ok p → f.condition none = .ok p.condition ∧
      ∀ path, path ∈ p.condition.fields ↔ ∃ t ∈ f.liveTerms, t.isAtomic ∧ path ∈ t.fields) ∧
    (∀ {m : Type → Type} [Monad m] [LawfulMonad m] (files : Files m) (path : String),
      Invocation.conditionOf files (some path) f = (do
        let r ← Invocation.loadRegistry files (some path)
        match build r f with
        | .ok _ => Invocation.conditionOf files none f
        | .error cause => throw (.plan cause))) ∧
    ((∀ s, r.resolve f.model ≠ .ok s) → build r f = .error (.unknownModel f.model)) ∧
    ∀ s, r.resolve f.model = .ok s →
      ((∀ c, f.condition none = .ok c → ¬ f.AllowedBy s) →
        ∃ cause, build r f = .error (.compile cause)) ∧
      ∀ c, f.condition none = .ok c → f.AllowedBy s → ¬ f.RelatedBy c s →
        ∃ path, f.RefersTo c path ∧ ['_', '_'] <:+: path.toList ∧ ¬ s.Declares path ∧
          build r f = .error (.missingRelation s.qualifiedName path) := by
  refine ⟨⟨?_, ?_⟩, fun p built => ?_, ?_, build_of_unresolved, fun s resolved => ?_⟩
  · rintro ⟨p, built⟩
    obtain ⟨s, c, resolved, unbound, allowed, related, _⟩ := build_eq_ok_iff.mp built
    exact ⟨s, c, resolved, unbound, allowed, related⟩
  · rintro ⟨s, c, resolved, unbound, allowed, related⟩
    exact ⟨ofCondition s f c, build_eq_ok_iff.mpr ⟨s, c, resolved, unbound, allowed, related, rfl⟩⟩
  · have unbound := condition_of_build built
    exact ⟨unbound, Filter.mem_fields_condition unbound⟩
  · intro m _ _ files path
    exact Invocation.conditionOf_registry files path f
  · exact ⟨build_of_uncompiled resolved, fun c => build_of_unrelated resolved⟩

section Orders

def customerOrders (relations : List Relation) : Schema where
  app := "shop"
  name := "order"
  table := "shop_order"
  fields := [.path "customer__name"]
  relations := relations

def ordersOfAda : Filter where
  model := "shop.Order"
  terms := [.atomic "customer__name" .equals (some "Ada")]

def customerIsAda : Condition :=
  .compare "customer__name" .equals (.scalar (.string "Ada"))

theorem ordersOfAda_liveTerms : ordersOfAda.liveTerms = ordersOfAda.terms := by
  simp only [Filter.liveTerms, Filter.orderedTerms, Filter.inOrder, ordersOfAda,
    List.mergeSort_singleton]
  rfl

theorem ordersOfAda_condition : ordersOfAda.condition none = .ok customerIsAda := by
  rw [Filter.condition, Builder.filter, ordersOfAda_liveTerms]
  rfl

theorem ordersOfAda_refersTo {path : String} :
    ordersOfAda.RefersTo customerIsAda path ↔ path = "customer__name" := by
  simp [Filter.RefersTo, ordersOfAda, customerIsAda, Condition.mem_fields_compare]

variable (relations : List Relation)

theorem ordersOfAda_allowedBy : ordersOfAda.AllowedBy (customerOrders relations) := by
  intro t member _ field isField
  rw [ordersOfAda_liveTerms] at member
  obtain rfl := List.mem_singleton.mp member
  obtain rfl := List.mem_singleton.mp isField
  rfl

theorem resolve_customerOrders :
    Registry.resolve ⟨[customerOrders relations]⟩ "shop.Order" =
      .ok (customerOrders relations) := by
  have qualified : (customerOrders relations).qualifiedName = "shop.Order" := by
    change "shop" ++ "." ++ Text.capitalizeText "order" = "shop.Order"
    rfl
  simp [Registry.resolve, Registry.find?, Schema.key, qualified]

theorem Plan.build_restricts_customer :
    (∃ p, build ⟨[customerOrders [⟨"customer", "shop_customer", "customer_id", "id"⟩]]⟩
      ordersOfAda = .ok p) ∧
    build ⟨[]⟩ ordersOfAda = .error (.unknownModel "shop.Order") ∧
    build ⟨[customerOrders []]⟩ ordersOfAda =
      .error (.missingRelation "shop.Order" "customer__name") := by
  refine ⟨(build_restricts _ _).1.mpr ⟨_, _, resolve_customerOrders _, ordersOfAda_condition,
    ordersOfAda_allowedBy _, ?_⟩, (build_restricts _ _).2.2.2.1 ?_, ?_⟩
  · intro path refers _
    obtain rfl := ordersOfAda_refersTo.mp refers
    exact Schema.declares_iff.mpr ⟨_, List.mem_singleton_self _, rfl⟩
  · intro s resolved
    cases resolved
  · have undeclared : ¬ ordersOfAda.RelatedBy customerIsAda (customerOrders []) := by
      intro related
      have through : ['_', '_'] <:+: "customer__name".toList := Field.isRelated_iff.mp rfl
      obtain ⟨_, member, _⟩ := related _ (ordersOfAda_refersTo.mpr rfl) through
      cases member
    obtain ⟨path, refers, _, _, built⟩ := ((build_restricts _ _).2.2.2.2 _
      (resolve_customerOrders [])).2 _ ordersOfAda_condition (ordersOfAda_allowedBy []) undeclared
    obtain rfl := ordersOfAda_refersTo.mp refers
    exact built

end Orders

end SavedFilter
