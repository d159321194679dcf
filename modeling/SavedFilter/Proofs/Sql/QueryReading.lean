import SavedFilter.Proofs.Field

/-! # Queries are read back from their text

The reader finds in the text of a query, in either dialect, what the query was: its table, its
columns, its joins and its order, with every name as it was given, and its condition. Only the
words of the vocabulary, the marks of parameters and the quoted names are there to be read,
`read_statement`. -/
set_option autoImplicit false
namespace SavedFilter

open Sql Fragment Descent

def Join.joined (base : String) (j : Join) : Joined :=
  ⟨j.table, j.name, ⟨some base, j.localKey⟩, ⟨some j.name, j.remoteKey⟩⟩

def SortColumn.key (base : Option String) (c : SortColumn) : SortItem :=
  ⟨.ofPath base c.field, c.isDescending⟩

/-- The table that bare columns are read under: the base table as soon as another one is joined. -/
def Query.bareTable (q : Query) : Option String := if q.joins.isEmpty then none else some q.table

def Query.selection (d : Dialect) (q : Query) : Selection where
  listing :=
    if q.columns.isEmpty then .every q.table else .columns (q.columns.map (.ofPath q.bareTable))
  table := q.table
  joins := q.joins.map (·.joined q.table)
  condition :=
    if q.condition = .always then none else some (q.condition.predicate d q.bareTable 0)
  orderBy := q.orderBy.map (·.key q.bareTable)

theorem Query.base_eq_bareTable (q : Query) : q.base = q.bareTable := rfl

/-- The condition that is read is that of the query, whether it is written or left out. -/
theorem Query.predicate_selection (d : Dialect) (q : Query) :
    (q.selection d).predicate = q.condition.predicate d q.bareTable 0 := by
  by_cases all : q.condition = .always
  · rw [Selection.predicate, selection, if_pos all, all]
    rfl
  · rw [Selection.predicate, selection, if_neg all]
    rfl

namespace Sql

theorem listing?_columns (c : ColumnRef) {ts : List Lexeme} (noDot : ts.head? ≠ some (.mark '.')) :
    listing? (c.lexemes ++ ts) =
      (list? (.mark ',') column? (c.lexemes ++ ts)).map fun (cs, rest) => (.columns cs, rest) := by
  have otherwise : ∀ ts : List Lexeme,
      (∀ table rest, ts ≠ .name table :: .mark '.' :: .mark '*' :: rest) →
      listing? ts = (list? (.mark ',') column? ts).map fun (cs, rest) => (.columns cs, rest) := by
    intro ts notEvery
    rw [listing?.eq_def]
    split
    · exact absurd rfl (notEvery _ _)
    · cases list? (.mark ',') column? ts <;> rfl
  refine otherwise _ fun table rest same => ?_
  obtain ⟨qualifier, name⟩ := c
  cases qualifier with
  | some qualifier => cases same
  | none =>
    cases ts with
    | nil => cases same
    | cons l ts =>
      cases same
      exact noDot rfl

theorem lexemes_columns (d : Dialect) (index : Nat) (base : Option String) (paths : List String) :
    lexemesFrom d index (commaSeparated (paths.map (columnSql base))) =
      [Lexeme.mark ','].intercalate
        (paths.map fun path => (ColumnRef.ofPath base path).lexemes) := by
  rw [lexemes_commaSeparated, List.map_map]
  · congr 1
    exact List.map_congr_left fun path _ => lexemes_columnSql d index base path
  · intro part member
    obtain ⟨path, _, rfl⟩ := List.mem_map.mp member
    exact params_columnSql base path

def EndsList (ts : List Lexeme) : Prop :=
  ts.head? ≠ some (.mark '.') ∧ ts.head? ≠ some (.mark ',')

theorem listing?_query (d : Dialect) (index : Nat) (q : Query) {rest : List Lexeme}
    (ends : EndsList rest) :
    listing? (lexemesFrom d index q.listing ++ rest) = some ((q.selection d).listing, rest) := by
  cases listed : q.columns with
  | nil =>
    rw [q.listing_every listed, Query.selection, listed]
    rfl
  | cons path paths =>
    have someListed : q.columns ≠ [] := by simp [listed]
    have read : list? (.mark ',') column? (lexemesFrom d index q.listing ++ rest) =
        some (q.columns.map (.ofPath q.bareTable), rest) := by
      rw [q.listing_columns someListed, q.base_eq_bareTable, lexemes_columns]
      exact list?_intercalate (fun path _ => ⟨column?_lexemes ends.1,
        fun ts => column?_lexemes (by simp)⟩) someListed ends.2
    -- the first column stands in front of a comma, or in front of what follows the list
    have split : ∃ ts, lexemesFrom d index q.listing ++ rest =
        (ColumnRef.ofPath q.bareTable path).lexemes ++ ts ∧ ts.head? ≠ some (.mark '.') := by
      rw [q.listing_columns someListed, q.base_eq_bareTable, lexemes_columns, listed]
      cases paths with
      | nil => exact ⟨rest, by simp, ends.1⟩
      | cons next paths =>
        rw [List.map_cons, List.map_cons, List.intercalate_cons_cons, List.append_assoc,
          List.append_assoc]
        exact ⟨_, rfl, by simp⟩
    obtain ⟨ts, first, noDot⟩ := split
    rw [first] at read ⊢
    rw [listing?_columns _ noDot, read, Query.selection, listed]
    rfl

theorem joins?_query (d : Dialect) (index : Nat) (base : String) (joins : List Join)
    {rest : List Lexeme} (noLeft : rest.head? ≠ some (.word "LEFT")) :
    joins? (lexemesFrom d index (joins.flatMap (·.sql base)) ++ rest) =
      some (joins.map (·.joined base), rest) := by
  induction joins with
  | nil =>
    change joins? rest = some ([], rest)
    rw [joins?.eq_def]
    split
    · exact absurd rfl noLeft
    · rfl
  | cons j joins ih =>
    rw [List.flatMap_cons, lexemesFrom_append, List.append_assoc]
    change joins? (.word "LEFT" :: .word "JOIN" :: .name j.table :: .word "AS" :: .name j.name ::
      .word "ON" :: .name base :: .mark '.' :: .name j.localKey :: .word "=" :: .name j.name ::
        .mark '.' :: .name j.remoteKey ::
          (lexemesFrom d index (joins.flatMap (·.sql base)) ++ rest)) = _
    rw [joins?]
    change Option.bind (within _ (some ((j.joined base).right,
      lexemesFrom d index (joins.flatMap (·.sql base)) ++ rest))) _ = _
    rw [within_some (by simp; omega)]
    change Option.bind (joins? _) _ = _
    rw [ih]
    rfl

theorem orderBy?_query (d : Dialect) (index : Nat) (q : Query) :
    orderBy? (lexemesFrom d index q.orderSql) = some (q.orderBy.map (·.key q.bareTable), []) := by
  by_cases unsorted : q.orderBy = []
  · rw [q.orderSql_unsorted unsorted, unsorted]
    rfl
  · have lexemes : lexemesFrom d index (commaSeparated (q.orderBy.map (·.sql q.bareTable))) =
        [Lexeme.mark ','].intercalate (q.orderBy.map fun c =>
          (ColumnRef.ofPath q.bareTable c.field).lexemes ++
            [.word (if c.isDescending then "DESC" else "ASC")]) := by
      rw [lexemes_commaSeparated, List.map_map]
      · congr 1
        refine List.map_congr_left fun c _ => ?_
        change lexemesFrom d index (c.sql q.bareTable) = _
        rw [SortColumn.sql, lexemes_columnSql_append]
        cases c.isDescending <;> rfl
      · intro part member
        obtain ⟨c, _, rfl⟩ := List.mem_map.mp member
        rw [SortColumn.sql, params_append, params_columnSql]
        rfl
    have item : ∀ (c : SortColumn) (ts : List Lexeme),
        sortItem? ((ColumnRef.ofPath q.bareTable c.field).lexemes ++
          [.word (if c.isDescending then "DESC" else "ASC")] ++ ts) =
            some (c.key q.bareTable, ts) := by
      intro c ts
      rw [List.append_assoc, sortItem?, column?_lexemes]
      · rw [SortColumn.key]
        cases c.isDescending <;> rfl
      · cases c.isDescending <;> simp
    have read : list? (.mark ',') sortItem?
        (lexemesFrom d index (commaSeparated (q.orderBy.map (·.sql q.bareTable))) ++ []) =
          some (q.orderBy.map (·.key q.bareTable), []) := by
      rw [lexemes]
      exact list?_intercalate (fun c _ => ⟨item c [], fun ts => item c (.mark ',' :: ts)⟩) unsorted
        (by simp)
    rw [q.orderSql_sorted unsorted, q.base_eq_bareTable]
    rw [List.append_nil] at read
    exact read

theorem where?_query (d : Dialect) (q : Query) {rest : List Lexeme} (ends : EndsCondition rest)
    (noWhere : rest.head? ≠ some (.word "WHERE")) :
    where? (lexemesFrom d 0 (q.whereSql d) ++ rest) = some ((q.selection d).condition, rest) := by
  by_cases all : q.condition = .always
  · rw [q.whereSql_always d all, Query.selection, if_pos all]
    change where? rest = some (none, rest)
    rw [where?.eq_def]
    split
    · exact absurd rfl noWhere
    · rfl
  · have read := disjunction?_single (negation?_condition d q.bareTable q.condition 0 rest) ends
    rw [q.whereSql_condition d all, q.base_eq_bareTable, Query.selection, if_neg all]
    change Option.bind
      (disjunction? (lexemesFrom d 0 (q.condition.sql d q.bareTable) ++ rest)) _ = _
    rw [read]
    rfl

theorem head_order (d : Dialect) (index : Nat) (q : Query) :
    (lexemesFrom d index q.orderSql).head? = none ∨
      (lexemesFrom d index q.orderSql).head? = some (.word "ORDER") := by
  by_cases unsorted : q.orderBy = []
  · exact .inl (by rw [q.orderSql_unsorted unsorted]; rfl)
  · exact .inr (by rw [q.orderSql_sorted unsorted]; rfl)

theorem head_where (d : Dialect) (index : Nat) (q : Query) :
    lexemesFrom d index (q.whereSql d) = [] ∨
      (lexemesFrom d index (q.whereSql d)).head? = some (.word "WHERE") := by
  by_cases all : q.condition = .always
  · exact .inl (by rw [q.whereSql_always d all]; rfl)
  · exact .inr (by rw [q.whereSql_condition d all]; rfl)

theorem lexemes_query (d : Dialect) (q : Query) :
    lexemesFrom d 0 (q.sql d) = .word "SELECT" :: (lexemesFrom d 0 q.listing ++
      .word "FROM" :: .name q.table :: (lexemesFrom d 0 (q.joins.flatMap (·.sql q.table)) ++
        (lexemesFrom d 0 (q.whereSql d) ++
          lexemesFrom d q.condition.bound.length q.orderSql))) := by
  have beforeJoins :
      params (.word "SELECT " :: q.listing ++ [.word " FROM ", .name q.table]) = [] := by
    rw [List.cons_append, params_word, params_append, params_listing]
    rfl
  have beforeWhere : params (.word "SELECT " :: q.listing ++ [.word " FROM ", .name q.table] ++
      q.joins.flatMap (·.sql q.table)) = [] := by
    rw [params_append, beforeJoins, params_joins]
    rfl
  have beforeOrder : params (.word "SELECT " :: q.listing ++ [.word " FROM ", .name q.table] ++
      q.joins.flatMap (·.sql q.table) ++ q.whereSql d) = q.condition.bound := by
    rw [params_append, beforeWhere, params_where]
    rfl
  have listing : lexemesFrom d 0 (.word "SELECT " :: q.listing ++ [.word " FROM ", .name q.table]) =
      .word "SELECT" :: (lexemesFrom d 0 q.listing ++ [.word "FROM", .name q.table]) := by
    rw [lexemesFrom_append]
    rfl
  rw [q.sql_eq, lexemesFrom_append, beforeOrder, lexemesFrom_append, beforeWhere,
    lexemesFrom_append, beforeJoins, listing]
  simp

theorem selection?_query (d : Dialect) (q : Query) :
    selection? (lexemesFrom d 0 (q.sql d)) = some (q.selection d) := by
  rw [lexemes_query]
  generalize atOrder : lexemesFrom d q.condition.bound.length q.orderSql = order
  have orderHead : order.head? = none ∨ order.head? = some (.word "ORDER") := by
    rw [← atOrder]
    exact head_order d _ q
  have orderEnds : EndsCondition order := by
    rcases orderHead with head | head <;> simp [EndsCondition, head]
  have orderNoWhere : order.head? ≠ some (.word "WHERE") := by
    rcases orderHead with head | head <;> simp [head]
  have noLeft : (lexemesFrom d 0 (q.whereSql d) ++ order).head? ≠ some (.word "LEFT") := by
    rcases head_where d 0 q with none | head
    · rw [none]
      rcases orderHead with head | head <;> simp [head]
    · simp [List.head?_append, head]
  change Option.bind (listing? (lexemesFrom d 0 q.listing ++ _)) _ = _
  rw [listing?_query d 0 q ⟨by simp, by simp⟩]
  change Option.bind (joins? _) _ = _
  rw [joins?_query d 0 q.table q.joins noLeft]
  change Option.bind (where? _) _ = _
  rw [where?_query d q orderEnds orderNoWhere]
  change Option.bind (orderBy? order) _ = _
  rw [← atOrder, orderBy?_query]
  rfl

end Sql

/-- The text of a query lexes fragment by fragment, and is read back as the query. What is no name
is a word of the vocabulary or the mark of a parameter, and each column spells its path. -/
theorem Query.read_statement (d : Dialect) (q : Query) :
    ∃ lexemes, lex d (q.statement d).text = some lexemes ∧
      selection? lexemes = some (q.selection d) ∧ lexemes = lexemesFrom d 0 (q.sql d) ∧
      (∀ w, .word w ∈ q.sql d → w ∈ vocabulary.map Prod.fst) ∧
      ∀ path, Field.Spells q.bareTable path (.ofPath q.bareTable path) := by
  refine ⟨_, lex_query d q, selection?_query d q, rfl, fun w member => ?_,
    Field.spells_ofPath q.bareTable⟩
  exact word_mem_vocabulary (wellSpaced_query d q) member

end SavedFilter
