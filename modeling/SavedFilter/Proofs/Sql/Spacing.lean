import SavedFilter.Proofs.Sql.Lexer
import SavedFilter.Sql.Query

/-! # The lexemes of statements

The words of all statements make up one vocabulary. In a statement no word runs into a name, a
parameter or another word, so the text lexes fragment by fragment: a name is one lexeme whatever
its characters are, and each other lexeme is the mark of a parameter or stems from the vocabulary,
`lex_statement`. -/
set_option autoImplicit false
namespace SavedFilter

open Sql

/-- The words of statements, each with its lexemes. -/
def vocabulary : List (String × List Sql.Lexeme) :=
  [("SELECT ", [.word "SELECT"]), (".*", [.mark '.', .mark '*']), (".", [.mark '.']),
    (", ", [.mark ',']), (" FROM ", [.word "FROM"]),
    (" LEFT JOIN ", [.word "LEFT", .word "JOIN"]), (" AS ", [.word "AS"]), (" ON ", [.word "ON"]),
    (" = ", [.word "="]), (" WHERE ", [.word "WHERE"]),
    (" ORDER BY ", [.word "ORDER", .word "BY"]), (" ASC", [.word "ASC"]), (" DESC", [.word "DESC"]),
    ("1 = 1", [.word "1", .word "=", .word "1"]), ("NOT (", [.word "NOT", .mark '(']),
    ("(", [.mark '(']), (")", [.mark ')']), (" AND ", [.word "AND"]), (" OR ", [.word "OR"]),
    (" IS NULL", [.word "IS", .word "NULL"]),
    (" IS NOT NULL", [.word "IS", .word "NOT", .word "NULL"]), (" LIKE ", [.word "LIKE"]),
    (" ILIKE ", [.word "ILIKE"]), (" IN (", [.word "IN", .mark '(']),
    (" BETWEEN ", [.word "BETWEEN"]), (" < ", [.word "<"]), (" > ", [.word ">"]),
    (" <= ", [.word "<="]), (" >= ", [.word ">="]),
    ("EXTRACT(YEAR FROM ", [.word "EXTRACT", .mark '(', .word "YEAR", .word "FROM"]),
    ("EXTRACT(MONTH FROM ", [.word "EXTRACT", .mark '(', .word "MONTH", .word "FROM"]),
    ("EXTRACT(DAY FROM ", [.word "EXTRACT", .mark '(', .word "DAY", .word "FROM"]),
    ("YEAR(", [.word "YEAR", .mark '(']), ("MONTH(", [.word "MONTH", .mark '(']),
    ("DAY(", [.word "DAY", .mark '(']), ("CAST(", [.word "CAST", .mark '(']),
    (" AS DATE)", [.word "AS", .word "DATE", .mark ')']), ("DATE(", [.word "DATE", .mark '('])]

/-- The mark of a parameter, counted from zero: `$1`, `$2` and so on, or question marks alone. -/
def Dialect.mark : Dialect → Nat → String
  | postgres, index => "$" ++ toString (index + 1)
  | mysql, _ => "?"

theorem Dialect.ofList_placeholder (d : Dialect) (index : Nat) :
    String.ofList (d.placeholder index) = d.mark index := by
  cases d with
  | postgres =>
    rw [placeholder, mark, ← String.toList_inj]
    simp
  | mysql => rfl

namespace Fragment

def text (d : Dialect) (index : Nat) : Fragment → List Char
  | word s => s.toList
  | name s => d.quote s.toList
  | param _ => d.placeholder index

def arity : Fragment → Nat
  | param _ => 1
  | _ => 0

def lexemes (d : Dialect) (index : Nat) : Fragment → List Sql.Lexeme
  | word s => (vocabulary.lookup s).getD []
  | name s => [.name s]
  | param _ => [.placeholder (d.mark index)]

def lexemesFrom (d : Dialect) (index : Nat) : List Fragment → List Sql.Lexeme
  | [] => []
  | f :: fs => f.lexemes d index ++ lexemesFrom d (index + f.arity) fs

def opensApart : Fragment → Bool
  | word s => s.toList.head?.any isBorder
  | _ => false

def closesApart : Fragment → Bool
  | word s => s.toList.getLast?.any isBorder
  | _ => false

def isKnown : Fragment → Bool
  | word s => (vocabulary.lookup s).isSome
  | _ => true

/-- Between any two of the fragments there is a blank or a mark, and so there is in front of them
unless something that ends with one goes before. -/
def wellSpaced (apart : Bool) : List Fragment → Bool
  | [] => true
  | f :: fs => (apart || f.opensApart) && f.isKnown && wellSpaced f.closesApart fs

theorem textFrom_cons (d : Dialect) (index : Nat) (f : Fragment) (fs : List Fragment) :
    textFrom d index (f :: fs) = f.text d index ++ textFrom d (index + f.arity) fs := by
  cases f <;> rfl

theorem params_cons_length (f : Fragment) (fs : List Fragment) :
    (params (f :: fs)).length = f.arity + (params fs).length := by
  cases f with
  | word _ => exact (Nat.zero_add _).symm
  | name _ => exact (Nat.zero_add _).symm
  | param _ => exact Nat.add_comm (params fs).length 1

theorem lexemesFrom_append (d : Dialect) (index : Nat) (fs gs : List Fragment) :
    lexemesFrom d index (fs ++ gs) =
      lexemesFrom d index fs ++ lexemesFrom d (index + (params fs).length) gs := by
  induction fs generalizing index with
  | nil => rfl
  | cons f fs ih =>
    rw [List.cons_append, lexemesFrom, lexemesFrom, ih, params_cons_length, List.append_assoc,
      Nat.add_assoc]

theorem wellSpaced_append {apart : Bool} {fs gs : List Fragment} (first : wellSpaced apart fs)
    (second : wellSpaced false gs) : wellSpaced apart (fs ++ gs) := by
  induction fs generalizing apart with
  | nil =>
    cases gs with
    | nil => rfl
    | cons g gs =>
      simp only [wellSpaced, Bool.false_or, Bool.and_eq_true] at second
      simp [wellSpaced, second]
  | cons f fs ih =>
    simp only [wellSpaced, Bool.and_eq_true] at first
    simp only [List.cons_append, wellSpaced, Bool.and_eq_true]
    exact ⟨first.1, ih first.2⟩

theorem wellSpaced_commaSeparated {parts : List (List Fragment)}
    (each : ∀ part ∈ parts, wellSpaced true part) :
    wellSpaced true (([word ", "] : List Fragment).intercalate parts) := by
  induction parts with
  | nil => rfl
  | cons part parts ih =>
    have head := each part (List.mem_cons_self ..)
    have tail := ih fun p member => each p (List.mem_cons_of_mem _ member)
    cases parts with
    | nil => rwa [List.intercalate_singleton]
    | cons next parts =>
      rw [List.intercalate_cons_cons, List.append_assoc]
      exact wellSpaced_append head tail

/-- Scanning a text of its own ends with the given lexemes, apart from what follows if `apart`. -/
def scansAs (d : Dialect) (cs : List Char) (lexemes : List Sql.Lexeme) (apart : Bool) : Bool :=
  (scan d .blank cs).any fun (done, s) =>
    s.finished?.any fun last => done ++ last == lexemes && (!apart || s.isApart)

theorem vocabulary_scansAs (d : Dialect) :
    ∀ p ∈ vocabulary, scansAs d p.1.toList p.2 (closesApart (word p.1)) := by
  cases d <;> decide

theorem mem_of_lookup {w : String} {lexemes : List Sql.Lexeme}
    (known : vocabulary.lookup w = some lexemes) : (w, lexemes) ∈ vocabulary := by
  obtain ⟨before, after, split, _⟩ := List.lookup_eq_some_iff.mp known
  rw [split]
  exact List.mem_append_right before (List.mem_cons_self ..)

theorem scan_text (d : Dialect) (index : Nat) {f : Fragment} (known : f.isKnown) :
    ∃ done s last, scan d .blank (f.text d index) = some (done, s) ∧ s.finished? = some last ∧
      done ++ last = f.lexemes d index ∧ (f.closesApart → s.isApart) := by
  cases f with
  | name s => exact ⟨[], _, _, scan_quote d s.toList, rfl, by simp [lexemes], nofun⟩
  | param v =>
    refine ⟨[], _, _, scan_placeholder d index, rfl, ?_, nofun⟩
    rw [d.ofList_placeholder]
    rfl
  | word w =>
    obtain ⟨ls, found⟩ := Option.isSome_iff_exists.mp known
    have scans := vocabulary_scansAs d _ (mem_of_lookup found)
    simp only [scansAs, Option.any_eq_true, Bool.and_eq_true, beq_iff_eq, Bool.or_eq_true,
      Bool.not_eq_true'] at scans
    obtain ⟨⟨done, s⟩, scanned, last, finished, same, apart⟩ := scans
    refine ⟨done, s, last, scanned, finished, by rw [same, lexemes, found]; rfl, ?_⟩
    intro closes
    exact apart.resolve_left (by simp [closes])

theorem stops_text (d : Dialect) (index : Nat) {f : Fragment} {apart : Bool} {s : LexState}
    {done : List Sql.Lexeme} (finished : s.finished? = some done) (isApart : apart → s.isApart)
    (spaced : apart || f.opensApart) (rest : List Char) : Stops d s (f.text d index ++ rest) := by
  rcases Bool.or_eq_true .. |>.mp spaced with before | opens
  · exact stops_of_isApart d (isApart before) _
  · cases f with
    | name _ => cases opens
    | param _ => cases opens
    | word w =>
      obtain ⟨c, head, border⟩ := Option.any_eq_true .. |>.mp opens
      cases chars : w.toList with
      | nil => rw [chars] at head; cases head
      | cons c' cs =>
        rw [chars] at head
        obtain rfl : c' = c := Option.some.inj head
        rw [text, chars]
        exact stops_of_isBorder d finished border _

/-- The text of well spaced fragments lexes fragment by fragment. -/
theorem lexFrom_textFrom (d : Dialect) {fs : List Fragment} {apart : Bool} {s : LexState}
    {done : List Sql.Lexeme} (index : Nat) (finished : s.finished? = some done)
    (isApart : apart → s.isApart) (spaced : wellSpaced apart fs) :
    lexFrom d s (textFrom d index fs) = some (done ++ lexemesFrom d index fs) := by
  induction fs generalizing apart s done index with
  | nil => rw [textFrom, lexFrom_nil, finished, lexemesFrom, List.append_nil]
  | cons f fs ih =>
    simp only [wellSpaced, Bool.and_eq_true] at spaced
    obtain ⟨⟨opens, known⟩, rest⟩ := spaced
    obtain ⟨done', t, last, scanned, finished', same, closes⟩ := scan_text d index known
    rw [textFrom_cons, lexFrom_of_stops d finished (stops_text d index finished isApart opens _),
      lexFrom_append d scanned, ih (index + f.arity) finished' closes rest, lexemesFrom, ← same]
    simp

theorem lex_statement (d : Dialect) {fs : List Fragment} (spaced : wellSpaced true fs) :
    lex d (statement d fs).text = some (lexemesFrom d 0 fs) := by
  have fromBlank : lexFrom d .blank (textFrom d 0 fs) = some ([] ++ lexemesFrom d 0 fs) :=
    lexFrom_textFrom d 0 rfl (fun _ => rfl) spaced
  rw [lex, statement, String.toList_ofList, fromBlank, List.nil_append]

/-- Outside names there is nothing but the vocabulary and the marks of parameters. -/
theorem word_mem_vocabulary {fs : List Fragment} {apart : Bool} (spaced : wellSpaced apart fs)
    {w : String} (member : word w ∈ fs) : w ∈ vocabulary.map Prod.fst := by
  induction fs generalizing apart with
  | nil => cases member
  | cons f fs ih =>
    simp only [wellSpaced, Bool.and_eq_true] at spaced
    obtain ⟨⟨_, known⟩, rest⟩ := spaced
    rcases List.mem_cons.mp member with rfl | later
    · obtain ⟨ls, found⟩ := Option.isSome_iff_exists.mp known
      exact List.mem_map_of_mem (f := Prod.fst) (mem_of_lookup found)
    · exact ih rest later

end Fragment

/-! ## The clauses of a query -/

namespace Query

variable (d : Dialect) (q : Query)

def whereSql : List Fragment :=
  if q.condition = .always then [] else .word " WHERE " :: q.condition.sql d q.base

def orderSql : List Fragment :=
  if q.orderBy.isEmpty then []
  else .word " ORDER BY " :: commaSeparated (q.orderBy.map (·.sql q.base))

theorem sql_eq : q.sql d = .word "SELECT " :: q.listing ++ [.word " FROM ", .name q.table] ++
    q.joins.flatMap (·.sql q.table) ++ q.whereSql d ++ q.orderSql := rfl

theorem whereSql_always (all : q.condition = .always) : q.whereSql d = [] := if_pos all

theorem whereSql_condition (notAll : q.condition ≠ .always) :
    q.whereSql d = .word " WHERE " :: q.condition.sql d q.base := if_neg notAll

theorem orderSql_unsorted (unsorted : q.orderBy = []) : q.orderSql = [] := by
  rw [orderSql, unsorted]
  rfl

theorem orderSql_sorted (sorted : q.orderBy ≠ []) :
    q.orderSql = .word " ORDER BY " :: commaSeparated (q.orderBy.map (·.sql q.base)) := by
  rw [orderSql, if_neg (by simpa using sorted)]

theorem listing_every (noneListed : q.columns = []) : q.listing = [.name q.table, .word ".*"] := by
  rw [listing, noneListed]
  rfl

theorem listing_columns (someListed : q.columns ≠ []) :
    q.listing = commaSeparated (q.columns.map (columnSql q.base)) := by
  rw [listing, if_neg (by simpa using someListed)]

end Query

/-! ## Conditions and queries are well spaced -/

open Fragment

theorem columnSql_cases (base : Option String) (path : String) :
    (∃ table column, columnSql base path = [.name table, .word ".", .name column]) ∨
      ∃ column, columnSql base path = [.name column] := by
  cases split : Field.split? path with
  | some parts => exact .inl ⟨parts.1, parts.2, by simp only [columnSql, split]⟩
  | none =>
    cases base with
    | some table => exact .inl ⟨table, path, by simp only [columnSql, split]⟩
    | none => exact .inr ⟨path, by simp only [columnSql, split]⟩

theorem comparisonSql_list (d : Dialect) (column : List Fragment) (lookup : Lookup)
    (vs : List Value) : comparisonSql d column lookup (.list vs) =
      column ++ (.word " IN (" :: (paramList vs ++ [.word ")"])) := by
  cases lookup <;> simp [comparisonSql]

theorem comparisonSql_range (d : Dialect) (column : List Fragment) (lookup : Lookup)
    (first last : Value) : comparisonSql d column lookup (.range first last) =
      column ++ [.word " BETWEEN ", .param first, .word " AND ", .param last] := by
  cases lookup <;> rfl

theorem wellSpaced_columnSql (base : Option String) (path : String) :
    wellSpaced true (columnSql base path) := by
  rcases columnSql_cases base path with ⟨table, column, shape⟩ | ⟨column, shape⟩
  · rw [shape]
    rfl
  · rw [shape]
    rfl

theorem wellSpaced_paramList (vs : List Value) : wellSpaced true (paramList vs) := by
  refine wellSpaced_commaSeparated fun part member => ?_
  obtain ⟨v, _, rfl⟩ := List.mem_map.mp member
  rfl

theorem wellSpaced_comparisonSql (d : Dialect) {column : List Fragment}
    (spaced : wellSpaced true column) (lookup : Lookup) (operand : Operand) :
    wellSpaced true (comparisonSql d column lookup operand) := by
  cases operand with
  | list vs =>
    rw [comparisonSql_list]
    have listed : wellSpaced false (.word " IN (" :: (paramList vs ++ [.word ")"])) :=
      wellSpaced_append (wellSpaced_paramList vs) rfl
    exact wellSpaced_append spaced listed
  | range first last =>
    rw [comparisonSql_range]
    exact wellSpaced_append spaced rfl
  | scalar v =>
    cases lookup with
    | isNull | isNotNull =>
      refine wellSpaced_append spaced ?_
      cases v.toBool?.getD true <;> rfl
    | contains | startsWith | endsWith =>
      refine wellSpaced_append spaced ?_
      cases d <;> rfl
    | year | month | day =>
      refine wellSpaced_append ?_ rfl
      cases d <;> exact spaced
    | onDate =>
      have opened : wellSpaced true (.word d.dateOpening :: column) := by
        cases d <;> exact spaced
      refine wellSpaced_append opened ?_
      cases d <;> rfl
    | equals | oneOf | dateRange | isTrue | isFalse | less | greater | atMost | atLeast =>
      exact wellSpaced_append spaced rfl

theorem wellSpaced_condition (d : Dialect) (base : Option String) (c : Condition) :
    wellSpaced true (c.sql d base) := by
  induction c with
  | always => rfl
  | compare field lookup operand =>
    exact wellSpaced_comparisonSql d (wellSpaced_columnSql base field) lookup operand
  | not c ih =>
    have opened : wellSpaced true (.word "NOT (" :: c.sql d base) := ih
    exact wellSpaced_append opened rfl
  | and left right ihLeft ihRight =>
    have opened : wellSpaced true (.word "(" :: left.sql d base) := ihLeft
    have joined : wellSpaced false (.word " AND " :: right.sql d base) := ihRight
    exact wellSpaced_append (wellSpaced_append opened joined) rfl
  | or left right ihLeft ihRight =>
    have opened : wellSpaced true (.word "(" :: left.sql d base) := ihLeft
    have joined : wellSpaced false (.word " OR " :: right.sql d base) := ihRight
    exact wellSpaced_append (wellSpaced_append opened joined) rfl

theorem wellSpaced_listing (q : Query) : wellSpaced true q.listing := by
  by_cases noneListed : q.columns = []
  · rw [q.listing_every noneListed]
    rfl
  · rw [q.listing_columns noneListed]
    refine wellSpaced_commaSeparated fun part member => ?_
    obtain ⟨path, _, rfl⟩ := List.mem_map.mp member
    exact wellSpaced_columnSql q.base path

theorem wellSpaced_joins (base : String) (joins : List Join) :
    wellSpaced false (joins.flatMap (·.sql base)) := by
  induction joins with
  | nil => rfl
  | cons j joins ih =>
    have one : wellSpaced false (j.sql base) := rfl
    exact wellSpaced_append one ih

theorem wellSpaced_orderBy (base : Option String) (columns : List SortColumn) :
    wellSpaced true (commaSeparated (columns.map (·.sql base))) := by
  refine wellSpaced_commaSeparated fun part member => ?_
  obtain ⟨c, _, rfl⟩ := List.mem_map.mp member
  refine wellSpaced_append (wellSpaced_columnSql base c.field) ?_
  cases c.isDescending <;> rfl

theorem wellSpaced_where (d : Dialect) (q : Query) : wellSpaced false (q.whereSql d) := by
  by_cases all : q.condition = .always
  · rw [q.whereSql_always d all]
    rfl
  · rw [q.whereSql_condition d all]
    exact wellSpaced_condition d q.base q.condition

theorem wellSpaced_order (q : Query) : wellSpaced false q.orderSql := by
  by_cases unsorted : q.orderBy = []
  · rw [q.orderSql_unsorted unsorted]
    rfl
  · rw [q.orderSql_sorted unsorted]
    exact wellSpaced_orderBy q.base q.orderBy

theorem wellSpaced_query (d : Dialect) (q : Query) : wellSpaced true (q.sql d) := by
  have listing : wellSpaced true (.word "SELECT " :: q.listing) := wellSpaced_listing q
  have source : wellSpaced false [.word " FROM ", .name q.table] := rfl
  rw [q.sql_eq]
  exact wellSpaced_append (wellSpaced_append (wellSpaced_append (wellSpaced_append listing source)
    (wellSpaced_joins q.table q.joins)) (wellSpaced_where d q)) (wellSpaced_order q)

theorem lex_query (d : Dialect) (q : Query) :
    lex d (q.statement d).text = some (lexemesFrom d 0 (q.sql d)) :=
  lex_statement d (wellSpaced_query d q)

end SavedFilter
