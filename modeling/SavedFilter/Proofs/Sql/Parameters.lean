import SavedFilter.Proofs.Sql.Spacing

/-! # Parameters and their marks

The parameters of a statement are the values that its comparisons bind, from the left, and the
marks that lex out of its text number them in that order: `parameters_numbered`. Names, however
they look, have no part in this, and the dialects differ in the marks alone. -/
set_option autoImplicit false
namespace SavedFilter

open Sql Fragment

/-- What a comparison binds: nothing for a null check, the pattern for a pattern, and otherwise
its values. -/
def Lookup.bound (lookup : Lookup) (operand : Operand) : List Value :=
  match lookup, operand with
  | isNull, .scalar _ | isNotNull, .scalar _ => []
  | contains, .scalar v | startsWith, .scalar v | endsWith, .scalar v => [lookup.pattern v]
  | _, operand => operand.values

def Condition.comparisons : Condition → List (Lookup × Operand)
  | always => []
  | compare _ lookup operand => [(lookup, operand)]
  | not c => c.comparisons
  | and left right => left.comparisons ++ right.comparisons
  | or left right => left.comparisons ++ right.comparisons

def Condition.bound (c : Condition) : List Value :=
  c.comparisons.flatMap fun (lookup, operand) => lookup.bound operand

theorem Condition.bound_and (left right : Condition) :
    (left.and right).bound = left.bound ++ right.bound := List.flatMap_append

theorem Condition.bound_or (left right : Condition) :
    (left.or right).bound = left.bound ++ right.bound := List.flatMap_append

def Sql.Lexeme.placeholder? : Sql.Lexeme → Option String
  | placeholder s => some s
  | _ => none

/-! ## What fragments bind -/

theorem params_append (fs gs : List Fragment) : params (fs ++ gs) = params fs ++ params gs :=
  List.filterMap_append

theorem params_word (w : String) (fs : List Fragment) : params (.word w :: fs) = params fs := rfl

theorem params_columnSql (base : Option String) (path : String) :
    params (columnSql base path) = [] := by
  rcases columnSql_cases base path with ⟨table, column, shape⟩ | ⟨column, shape⟩
  · rw [shape]
    rfl
  · rw [shape]
    rfl

theorem params_commaSeparated (parts : List (List Fragment)) :
    params (([word ", "] : List Fragment).intercalate parts) = parts.flatMap params := by
  induction parts with
  | nil => rfl
  | cons part parts ih =>
    cases parts with
    | nil => simp
    | cons next parts =>
      rw [List.intercalate_cons_cons, params_append, params_append, ih, List.flatMap_cons,
        List.append_assoc]
      rfl

theorem params_paramList (vs : List Value) : params (paramList vs) = vs := by
  rw [paramList, params_commaSeparated]
  induction vs with
  | nil => rfl
  | cons v vs ih => rw [List.map_cons, List.flatMap_cons, ih]; rfl

theorem params_comparisonSql (d : Dialect) {column : List Fragment} (unbound : params column = [])
    (lookup : Lookup) (operand : Operand) :
    params (comparisonSql d column lookup operand) = lookup.bound operand := by
  cases operand with
  | list vs =>
    rw [comparisonSql_list, params_append, unbound, params_word, params_append, params_paramList]
    cases lookup <;> exact List.append_nil vs
  | range first last =>
    rw [comparisonSql_range, params_append, unbound]
    cases lookup <;> rfl
  | scalar v =>
    cases lookup with
    | year | month | day | onDate =>
      refine (params_append (.word _ :: column) _).trans ?_
      rw [params_word, unbound]
      rfl
    | isNull | isNotNull | contains | startsWith | endsWith | equals | oneOf | dateRange | isTrue
    | isFalse | less | greater | atMost | atLeast =>
      refine (params_append column _).trans ?_
      rw [unbound]
      rfl

theorem params_condition (d : Dialect) (base : Option String) (c : Condition) :
    params (c.sql d base) = c.bound := by
  induction c with
  | always => rfl
  | compare field lookup operand =>
    rw [Condition.sql, params_comparisonSql d (params_columnSql base field)]
    exact (List.append_nil _).symm
  | not c ih =>
    rw [Condition.sql, List.cons_append, params_word, params_append, ih]
    exact List.append_nil _
  | and left right ihLeft ihRight =>
    rw [Condition.sql, List.cons_append, List.cons_append, params_word, params_append,
      params_append, params_word, ihLeft, ihRight, Condition.bound_and]
    exact List.append_nil _
  | or left right ihLeft ihRight =>
    rw [Condition.sql, List.cons_append, List.cons_append, params_word, params_append,
      params_append, params_word, ihLeft, ihRight, Condition.bound_or]
    exact List.append_nil _

theorem params_joins (base : String) (joins : List Join) :
    params (joins.flatMap (·.sql base)) = [] := by
  induction joins with
  | nil => rfl
  | cons j joins ih => rw [List.flatMap_cons, params_append, ih]; rfl

theorem params_listing (q : Query) : params q.listing = [] := by
  by_cases noneListed : q.columns = []
  · rw [q.listing_every noneListed]
    rfl
  · rw [q.listing_columns noneListed, commaSeparated, params_commaSeparated,
      List.flatMap_eq_nil_iff]
    intro part member
    obtain ⟨path, _, rfl⟩ := List.mem_map.mp member
    exact params_columnSql q.base path

theorem params_orderBy (base : Option String) (columns : List SortColumn) :
    params (commaSeparated (columns.map (·.sql base))) = [] := by
  rw [commaSeparated, params_commaSeparated, List.flatMap_eq_nil_iff]
  intro part member
  obtain ⟨c, _, rfl⟩ := List.mem_map.mp member
  rw [SortColumn.sql, params_append, params_columnSql]
  rfl

theorem params_where (d : Dialect) (q : Query) : params (q.whereSql d) = q.condition.bound := by
  by_cases all : q.condition = .always
  · rw [q.whereSql_always d all, all]
    rfl
  · rw [q.whereSql_condition d all, params_word, params_condition]

theorem params_order (q : Query) : params q.orderSql = [] := by
  by_cases unsorted : q.orderBy = []
  · rw [q.orderSql_unsorted unsorted]
    rfl
  · rw [q.orderSql_sorted unsorted, params_word, params_orderBy]

theorem params_query (d : Dialect) (q : Query) : params (q.sql d) = q.condition.bound := by
  rw [q.sql_eq, params_append, params_append, params_append, List.cons_append, params_word,
    params_append, params_listing, params_joins, params_where, params_order]
  exact List.append_nil _

/-! ## The marks in the text -/

theorem placeholders_lexemes (d : Dialect) (index : Nat) (f : Fragment) :
    (f.lexemes d index).filterMap Sql.Lexeme.placeholder? =
      (List.range' index f.arity).map d.mark := by
  cases f with
  | name _ => rfl
  | param _ => rfl
  | word w =>
    have noneMarked : ∀ p ∈ vocabulary, p.2.filterMap Sql.Lexeme.placeholder? = [] := by decide
    rw [lexemes]
    cases found : vocabulary.lookup w with
    | none => rfl
    | some ls => exact noneMarked _ (mem_of_lookup found)

theorem placeholders_lexemesFrom (d : Dialect) (index : Nat) (fs : List Fragment) :
    (lexemesFrom d index fs).filterMap Sql.Lexeme.placeholder? =
      (List.range' index (params fs).length).map d.mark := by
  induction fs generalizing index with
  | nil => rfl
  | cons f fs ih =>
    rw [lexemesFrom, List.filterMap_append, placeholders_lexemes, ih, params_cons_length,
      ← List.map_append, ← List.range'_append_1]

/-- The text of a statement lexes, and its placeholders are those of its parameters. -/
def Statement.Numbered (d : Dialect) (s : Statement) : Prop :=
  ∃ lexemes, lex d s.text = some lexemes ∧
    lexemes.filterMap Sql.Lexeme.placeholder? = (List.range s.params.length).map d.mark

theorem numbered_statement (d : Dialect) {fs : List Fragment} (spaced : wellSpaced true fs) :
    (statement d fs).Numbered d := by
  refine ⟨_, lex_statement d spaced, ?_⟩
  rw [placeholders_lexemesFrom, ← List.range_eq_range']
  rfl

/-- In queries and in conditions the marks are those of the parameters, in order, and the
parameters are what the condition binds, in either dialect. -/
theorem parameters_numbered (d : Dialect) (q : Query) (c : Condition) :
    ((q.statement d).Numbered d ∧ (q.statement d).params = q.condition.bound) ∧
      (c.statement d).Numbered d ∧ (c.statement d).params = c.bound :=
  ⟨⟨numbered_statement d (wellSpaced_query d q), params_query d q⟩,
    numbered_statement d (wellSpaced_condition d none c), params_condition d none c⟩

end SavedFilter
