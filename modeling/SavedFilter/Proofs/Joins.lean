import SavedFilter.Proofs.Field
import SavedFilter.Proofs.Plan
import SavedFilter.Proofs.Sql.QueryReading

/-! # The tables of a plan

A plan joins the relations that its paths go through and no others, so each column of its statement
belongs to the base table or to a join, `build_joins`. A relation is joined under its own name. The
tables have different names exactly when each path goes through one relation, which is not named
like the base table, `tables_nodup_iff`; a schema may declare a name twice, and then both tables
are joined under it. -/
set_option autoImplicit false
namespace SavedFilter

/-! ## The columns of a statement -/

namespace Sql

def Expression.columnRef : Expression → ColumnRef
  | column c | part _ c | date c => c

def Predicate.columns : Predicate → List ColumnRef
  | always => []
  | compare e _ => [e.columnRef]
  | not p => p.columns
  | and left right | or left right => left.columns ++ right.columns

def Listing.qualifiers : Listing → List (Option String)
  | every table => [some table]
  | columns cs => cs.map ColumnRef.table

/-- What stands in front of the columns of a statement, clause by clause. -/
def Selection.qualifiers (s : Selection) : List (Option String) :=
  s.listing.qualifiers ++ s.joins.flatMap (fun j => [j.left.table, j.right.table]) ++
    s.predicate.columns.map ColumnRef.table ++ s.orderBy.map (·.column.table)

theorem Expression.columnRef_ofComparison (lookup : Lookup) (operand : Operand) (c : ColumnRef) :
    (ofComparison lookup operand c).columnRef = c := by
  unfold ofComparison
  split <;> rfl

end Sql

open Sql

namespace Query

def paths (q : Query) : List String :=
  q.condition.fields ++ q.columns ++ q.orderBy.map SortColumn.field

def tables (q : Query) : List String := q.table :: q.joins.map Join.name

end Query

namespace Condition

variable {c : ColumnRef}

theorem exists_path_of_mem_columns {condition : Condition} (d : Dialect) (base : Option String)
    (index : Nat) (member : c ∈ (condition.predicate d base index).columns) :
    ∃ path ∈ condition.fields, c = .ofPath base path := by
  induction condition generalizing index with
  | always => cases member
  | compare field lookup operand =>
    obtain rfl := List.mem_singleton.mp member
    exact ⟨field, mem_fields_compare.mpr rfl, Expression.columnRef_ofComparison _ _ _⟩
  | not condition ih => exact ih index member
  | and left right ihLeft ihRight | or left right ihLeft ihRight =>
    obtain member | member := List.mem_append.mp member
    · obtain ⟨path, isField, rfl⟩ := ihLeft _ member
      exact ⟨path, (mem_fieldsFrom right left.fields).mpr (.inl isField), rfl⟩
    · obtain ⟨path, isField, rfl⟩ := ihRight _ member
      exact ⟨path, (mem_fieldsFrom right left.fields).mpr (.inr isField), rfl⟩

end Condition

namespace Query

variable {q : Query}

theorem bareTable_of_joins (someJoined : q.joins ≠ []) : q.bareTable = some q.table := by
  rw [bareTable, if_neg (by simpa using someJoined)]

theorem exists_path_of_mem_listing (someJoined : q.joins ≠ []) (d : Dialect)
    {qualifier : Option String} (member : qualifier ∈ (q.selection d).listing.qualifiers) :
    qualifier = some q.table ∨
      ∃ path ∈ q.paths, qualifier = (ColumnRef.ofPath (some q.table) path).table := by
  rw [selection, bareTable_of_joins someJoined] at member
  by_cases every : q.columns.isEmpty
  · rw [if_pos every] at member
    exact .inl (List.mem_singleton.mp member)
  · rw [if_neg every, Listing.qualifiers, List.map_map, List.mem_map] at member
    obtain ⟨path, listed, rfl⟩ := member
    exact .inr ⟨path, by simp [paths, listed], rfl⟩

theorem qualifier_cases (someJoined : q.joins ≠ []) (d : Dialect) {qualifier : Option String}
    (member : qualifier ∈ (q.selection d).qualifiers) :
    (∃ table ∈ q.tables, qualifier = some table) ∨
      ∃ path ∈ q.paths, qualifier = (ColumnRef.ofPath (some q.table) path).table := by
  simp only [Selection.qualifiers, List.mem_append, or_assoc] at member
  obtain listed | joined | compared | sorted := member
  · obtain ofBase | ofPath := exists_path_of_mem_listing someJoined d listed
    · exact .inl ⟨q.table, List.mem_cons_self, ofBase⟩
    · exact .inr ofPath
  · obtain ⟨_, joined, side⟩ := List.mem_flatMap.mp joined
    obtain ⟨j, isJoin, rfl⟩ := List.mem_map.mp joined
    obtain rfl | rfl : qualifier = some q.table ∨ qualifier = some j.name := by
      simpa [Join.joined] using side
    · exact .inl ⟨q.table, List.mem_cons_self, rfl⟩
    · exact .inl ⟨j.name, List.mem_cons_of_mem _ (List.mem_map_of_mem isJoin), rfl⟩
  · obtain ⟨column, isColumn, rfl⟩ := List.mem_map.mp compared
    rw [predicate_selection, bareTable_of_joins someJoined] at isColumn
    obtain ⟨path, isField, rfl⟩ := Condition.exists_path_of_mem_columns d _ _ isColumn
    exact .inr ⟨path, by simp [paths, isField], rfl⟩
  · rw [selection, bareTable_of_joins someJoined] at sorted
    simp only [List.map_map, List.mem_map] at sorted
    obtain ⟨key, isKey, rfl⟩ := sorted
    exact .inr ⟨key.field, List.mem_append_right _ (List.mem_map_of_mem isKey), rfl⟩

end Query

/-! ## Paths through relations -/

namespace Field

variable {path qualifier : String}

theorem doubled_of_qualifier? (found : qualifier? path = some qualifier) :
    ['_', '_'] <:+: path.toList := by
  obtain ⟨column, rfl, _⟩ := qualifier?_eq_some_iff.mp found
  exact ⟨qualifier.toList, column.toList, by simp⟩

theorem columnSql_of_qualifier? (found : qualifier? path = some qualifier) :
    ∃ column, ∀ base, columnSql base path = [.name qualifier, .word ".", .name column] := by
  obtain ⟨⟨q, n⟩, split, rfl⟩ := Option.map_eq_some_iff.mp found
  refine ⟨n, fun base => ?_⟩
  simp only [columnSql, split]

theorem table_ofPath (table path : String) :
    (ColumnRef.ofPath (some table) path).table = some ((qualifier? path).getD table) := by
  rw [ColumnRef.ofPath, qualifier?]
  cases split? path <;> rfl

end Field

namespace Schema

variable {s : Schema} {paths : List String}

theorem mem_relationsUsed {relation : Relation} :
    relation ∈ s.relationsUsed paths ↔
      relation ∈ s.relations ∧ ∃ path ∈ paths, Field.qualifier? path = some relation.name := by
  simp [relationsUsed]

theorem name_mem_relationsUsed {path : String} (listed : path ∈ paths)
    (declared : s.Declares path) :
    ∃ relation ∈ s.relationsUsed paths, Field.qualifier? path = some relation.name := by
  obtain ⟨relation, member, through⟩ := declares_iff.mp declared
  exact ⟨relation, mem_relationsUsed.mpr ⟨member, path, listed, through⟩, through⟩

end Schema

/-! ## Relations of one name -/

theorem filter_eq_find?_iff {α : Type} {test : α → Bool} {xs : List α} :
    xs.filter test = (xs.find? test).toList ↔ xs.countP test ≤ 1 := by
  rw [List.countP_eq_length_filter, ← List.head?_filter]
  match xs.filter test with
  | [] | [x] | x :: y :: more => simp

namespace Schema

variable {s : Schema} {paths : List String}

/-- The relations of one name are all joined if a path goes through that name, and otherwise none
of them is. -/
theorem count_relationsUsed (s : Schema) (paths : List String) (name : String) :
    ((s.relationsUsed paths).map Relation.name).count name =
      if ∃ path ∈ paths, Field.qualifier? path = some name then
        s.relations.countP (·.name == name)
      else 0 := by
  rw [relationsUsed, List.count, List.countP_map, List.countP_filter]
  split
  · rename_i named
    refine List.countP_congr fun relation _ => ?_
    have same : ((· == name) ∘ Relation.name) relation = (relation.name == name) := rfl
    rw [same, Bool.and_eq_true, beq_iff_eq]
    refine ⟨And.left, fun ofName => ⟨ofName, ?_⟩⟩
    simpa [ofName] using named
  · rename_i unnamed
    rw [List.countP_eq_zero]
    rintro relation _ both
    rw [Bool.and_eq_true, Function.comp_apply, beq_iff_eq] at both
    obtain ⟨rfl, named⟩ := both
    exact unnamed (by simpa using named)

theorem relationsUsed_single_iff {path : String} :
    s.relationsUsed [path] = (s.relation? path).toList ↔
      ∀ name, Field.qualifier? path = some name → s.relations.countP (·.name == name) ≤ 1 := by
  rw [relation?]
  cases through : Field.qualifier? path with
  | none => simp [relationsUsed, through]
  | some name =>
    have used : s.relationsUsed [path] = s.relations.filter (·.name == name) := by
      refine List.filter_congr fun relation _ => ?_
      rw [Bool.eq_iff_iff, beq_iff_eq, eq_comm]
      simp [through]
    simp [used, filter_eq_find?_iff]

theorem nodup_names_relationsUsed_iff :
    ((s.relationsUsed paths).map Relation.name).Nodup ↔
      ∀ path ∈ paths, s.relationsUsed [path] = (s.relation? path).toList := by
  simp only [List.nodup_iff_count, relationsUsed_single_iff, count_relationsUsed]
  constructor
  · intro once path listed name named
    have count := once name
    rwa [if_pos ⟨path, listed, named⟩] at count
  · intro once name
    split
    · rename_i named
      obtain ⟨path, listed, named⟩ := named
      exact once path listed name named
    · exact Nat.zero_le 1

end Schema

/-! ## The joins of a plan -/

namespace Plan

variable {r : Registry} {f : Filter} {p : Plan}

theorem query_of_build (built : build r f = .ok p) :
    ∃ s, r.resolve f.model = .ok s ∧ p.query.table = s.table ∧
      p.query.joins = (s.relationsUsed p.query.paths).map Relation.join ∧
      ∀ path ∈ p.query.paths, ['_', '_'] <:+: path.toList → s.Declares path := by
  obtain ⟨s, c, resolved, _, _, related, rfl⟩ := build_eq_ok_iff.mp built
  exact ⟨s, resolved, rfl, rfl, fun path listed => related path (mem_paths.mp listed)⟩

end Plan

/-! ## The orders of one customer -/

theorem ordersOfAda_relatedBy {relations : List Relation}
    (declared : ∃ relation ∈ relations, relation.name = "customer") :
    ordersOfAda.RelatedBy customerIsAda (customerOrders relations) := by
  intro path refers _
  obtain rfl := ordersOfAda_refersTo.mp refers
  obtain ⟨relation, member, named⟩ := declared
  exact Schema.declares_iff.mpr ⟨relation, member, named ▸ rfl⟩

def customerPlan (relations : List Relation) : Plan :=
  Plan.ofCondition (customerOrders relations) ordersOfAda customerIsAda

theorem build_customerPlan {relations : List Relation}
    (declared : ∃ relation ∈ relations, relation.name = "customer") :
    Plan.build ⟨[customerOrders relations]⟩ ordersOfAda = .ok (customerPlan relations) :=
  Plan.build_eq_ok_iff.mpr ⟨_, _, resolve_customerOrders relations, ordersOfAda_condition,
    ordersOfAda_allowedBy relations, ordersOfAda_relatedBy declared, rfl⟩

theorem customerPlan_query (relations : List Relation) :
    (customerPlan relations).query =
      { table := "shop_order", joins := ((customerOrders relations).relationsUsed
          ["customer__name"]).map Relation.join, condition := customerIsAda } := by
  have noColumns : ordersOfAda.orderedColumns = [] := List.mergeSort_nil
  have noKeys : Plan.sortColumns ordersOfAda = [] := by
    rw [Plan.sortColumns, Filter.orderedSortKeys, Filter.inOrder]
    exact congrArg _ List.mergeSort_nil
  rw [customerPlan, Plan.ofCondition, noColumns, noKeys]
  rfl

def customerRelation : Relation := ⟨"customer", "shop_customer", "customer_id", "id"⟩

def clientRelation : Relation := ⟨"customer", "shop_client", "client_id", "id"⟩

def addressRelation : Relation := ⟨"address", "shop_address", "address_id", "id"⟩

theorem build_addressed :
    Plan.build ⟨[customerOrders [addressRelation, customerRelation]]⟩ ordersOfAda =
      .ok (customerPlan [addressRelation, customerRelation]) :=
  build_customerPlan ⟨customerRelation, by simp, rfl⟩

/-! ## The tables of a plan -/

namespace Plan

variable {r : Registry} {f : Filter} {p : Plan}

/-- Each path through a relation is a column of a join, the joins are declared relations in their
order, each for some path, and with a join all columns in the text of the statement are those of
the base table or of a join. -/
theorem build_joins (built : build r f = .ok p) :
    (∀ path ∈ p.query.paths, ¬ ['_', '_'] <:+: path.toList ∨ ∃ j ∈ p.query.joins, ∃ column,
      ∀ base, columnSql base path = [.name j.name, .word ".", .name column]) ∧
    (∃ (s : Schema) (used : List Relation), r.resolve f.model = .ok s ∧ used.Sublist s.relations ∧
      p.query.joins = used.map Relation.join ∧
      ∀ relation ∈ used, ∃ path ∈ p.query.paths, Field.Through path relation.name) ∧
    (p.query.joins ≠ [] → ∀ d, ∃ lexemes selection,
      lex d (p.query.statement d).text = some lexemes ∧ selection? lexemes = some selection ∧
      ∀ qualifier ∈ selection.qualifiers, ∃ table ∈ p.query.tables, qualifier = some table) := by
  obtain ⟨s, resolved, table, joins, related⟩ := query_of_build built
  have joined (path : String) (listed : path ∈ p.query.paths)
      (through : ['_', '_'] <:+: path.toList) :
      ∃ j ∈ p.query.joins, Field.qualifier? path = some j.name := by
    obtain ⟨relation, used, named⟩ :=
      Schema.name_mem_relationsUsed listed (related path listed through)
    exact ⟨relation.join, joins ▸ List.mem_map_of_mem used, named⟩
  refine ⟨fun path listed => ?_, ⟨s, _, resolved, List.filter_sublist, joins, ?_⟩, ?_⟩
  · by_cases through : ['_', '_'] <:+: path.toList
    · obtain ⟨j, isJoin, named⟩ := joined path listed through
      exact .inr ⟨j, isJoin, Field.columnSql_of_qualifier? named⟩
    · exact .inl through
  · intro relation used
    obtain ⟨_, path, listed, named⟩ := Schema.mem_relationsUsed.mp used
    exact ⟨path, listed, Field.qualifier?_eq_some_iff.mp named⟩
  · intro someJoined d
    refine ⟨_, _, lex_query d p.query, selection?_query d p.query, fun qualifier member => ?_⟩
    obtain ofTable | ⟨path, listed, rfl⟩ := Query.qualifier_cases someJoined d member
    · exact ofTable
    · rw [Field.table_ofPath]
      cases named : Field.qualifier? path with
      | none => exact ⟨_, List.mem_cons_self, rfl⟩
      | some name =>
        obtain ⟨j, isJoin, same⟩ := joined path listed (Field.doubled_of_qualifier? named)
        obtain rfl := Option.some.inj (named.symm.trans same)
        exact ⟨_, List.mem_cons_of_mem _ (List.mem_map_of_mem isJoin), rfl⟩

theorem build_joins_customer :
    build ⟨[customerOrders [addressRelation, customerRelation]]⟩ ordersOfAda =
        .ok (customerPlan [addressRelation, customerRelation]) ∧
      (customerPlan [addressRelation, customerRelation]).query.joins = [customerRelation.join] ∧
      ∀ d, ∃ lexemes selection,
        lex d ((customerPlan [addressRelation, customerRelation]).query.statement d).text =
          some lexemes ∧
        selection? lexemes = some selection ∧
        ∀ qualifier ∈ selection.qualifiers,
          qualifier = some "shop_order" ∨ qualifier = some "customer" := by
  have built := build_addressed
  have joins : (customerPlan [addressRelation, customerRelation]).query.joins =
      [customerRelation.join] := by
    rw [customerPlan_query]
    decide
  have tables : (customerPlan [addressRelation, customerRelation]).query.tables =
      ["shop_order", "customer"] := by
    rw [customerPlan_query]
    decide
  refine ⟨built, joins, fun d => ?_⟩
  obtain ⟨lexemes, selection, lexed, read, qualified⟩ :=
    (build_joins built).2.2 (by simp [joins]) d
  refine ⟨lexemes, selection, lexed, read, fun qualifier member => ?_⟩
  simpa [tables] using qualified qualifier member

/-- The names in the `FROM` clause are different exactly when the relation that is declared first
under the name that a path goes through is the only one that is joined for it, and no path goes
through the name of the base table. -/
theorem tables_nodup_iff {s : Schema} (resolved : r.resolve f.model = .ok s)
    (built : build r f = .ok p) :
    p.query.tables.Nodup ↔ ∀ path ∈ p.query.paths,
      s.relationsUsed [path] = (s.relation? path).toList ∧
        Field.qualifier? path ≠ some s.table := by
  obtain ⟨_, same, table, joins, related⟩ := query_of_build built
  obtain rfl := Except.ok.inj (resolved.symm.trans same)
  have names : p.query.joins.map Join.name =
      (s.relationsUsed p.query.paths).map Relation.name := by
    rw [joins, List.map_map]
    rfl
  have baseApart : s.table ∉ (s.relationsUsed p.query.paths).map Relation.name ↔
      ∀ path ∈ p.query.paths, Field.qualifier? path ≠ some s.table := by
    constructor
    · intro apart path listed named
      obtain ⟨relation, used, same⟩ := Schema.name_mem_relationsUsed listed
        (related path listed (Field.doubled_of_qualifier? named))
      have name : relation.name = s.table := Option.some.inj (same.symm.trans named)
      exact apart (name ▸ List.mem_map_of_mem used)
    · intro apart member
      obtain ⟨relation, used, named⟩ := List.mem_map.mp member
      obtain ⟨_, path, listed, through⟩ := Schema.mem_relationsUsed.mp used
      exact apart path listed (named ▸ through)
  rw [Query.tables, names, table, List.nodup_cons, baseApart,
    Schema.nodup_names_relationsUsed_iff]
  grind

theorem tables_nodup_iff_customer :
    build ⟨[customerOrders [addressRelation, customerRelation]]⟩ ordersOfAda =
        .ok (customerPlan [addressRelation, customerRelation]) ∧
      (customerPlan [addressRelation, customerRelation]).query.tables.Nodup := by
  have built := build_addressed
  have paths : (customerPlan [addressRelation, customerRelation]).query.paths =
      ["customer__name"] := by
    rw [customerPlan_query]
    decide
  have resolved : Registry.resolve ⟨[customerOrders [addressRelation, customerRelation]]⟩
      ordersOfAda.model = .ok (customerOrders [addressRelation, customerRelation]) :=
    resolve_customerOrders _
  refine ⟨built, (tables_nodup_iff resolved built).mpr ?_⟩
  rw [paths]
  decide

/-- A name that is declared twice is joined twice; the statement cannot tell the tables apart. -/
theorem tables_repeated_client :
    ∃ r, Registry.ofSchemas [customerOrders [customerRelation, clientRelation]] = .ok r ∧
      ∃ p, build r ordersOfAda = .ok p ∧ p.query.tables = ["shop_order", "customer", "customer"] ∧
        ¬ p.query.tables.Nodup := by
  have registered (s : Schema) : Registry.ofSchemas [s] = .ok ⟨[s]⟩ := rfl
  have built : build ⟨[customerOrders [customerRelation, clientRelation]]⟩ ordersOfAda =
      .ok (customerPlan [customerRelation, clientRelation]) :=
    build_customerPlan ⟨customerRelation, by simp, rfl⟩
  have tables : (customerPlan [customerRelation, clientRelation]).query.tables =
      ["shop_order", "customer", "customer"] := by
    rw [customerPlan_query]
    decide
  refine ⟨_, registered _, _, built, tables, ?_⟩
  rw [tables]
  decide

end Plan

end SavedFilter
