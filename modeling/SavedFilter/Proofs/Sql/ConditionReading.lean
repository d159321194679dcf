import SavedFilter.Proofs.Sql.Parameters
import SavedFilter.Proofs.Sql.Reader

/-! # Conditions are read back

The reader finds in the lexemes of a condition, in either dialect, its negations, conjunctions and
disjunctions in their places, and for each comparison its column and its form. The marks of the
parameters count the values that stand to the left of them. A condition is read as one operand,
whatever follows it, `negation?_condition`: its parentheses hold it together. -/
set_option autoImplicit false
namespace SavedFilter

open Sql Fragment Descent

/-! ## What a condition is read as -/

/-- The column of a path: one of a relation, or else one of the base table if there is one. -/
def Sql.ColumnRef.ofPath (base : Option String) (path : String) : ColumnRef :=
  match Field.split? path with
  | some (relation, column) => ⟨some relation, column⟩
  | none => ⟨base, path⟩

def Sql.Expression.ofComparison (lookup : Lookup) (operand : Operand) (c : ColumnRef) :
    Expression :=
  match lookup, operand with
  | .year, .scalar _ => .part "YEAR" c
  | .month, .scalar _ => .part "MONTH" c
  | .day, .scalar _ => .part "DAY" c
  | .onDate, .scalar _ => .date c
  | _, _ => .column c

def Lookup.symbol : Lookup → String
  | less => "<"
  | greater => ">"
  | atMost => "<="
  | atLeast => ">="
  | _ => "="

def Dialect.patternSymbol : Dialect → String
  | postgres => "ILIKE"
  | mysql => "LIKE"

/-- False and zero, also as texts in any letter case. -/
def Value.saysNo : Value → Bool
  | boolean b => !b
  | integer n => n == 0
  | string s => Text.lowerText s = "false" || Text.lowerText s = "0"
  | decimal _ | date _ => false

def Sql.Test.ofComparison (d : Dialect) (index : Nat) (lookup : Lookup) : Operand → Test
  | .list vs => .oneOf ((List.range' index vs.length).map d.mark)
  | .range _ _ => .between (d.mark index) (d.mark (index + 1))
  | .scalar v =>
    match lookup with
    | .isNull | .isNotNull => if v.saysNo then .notNull else .null
    | .contains | .startsWith | .endsWith => .operator d.patternSymbol (d.mark index)
    | lookup => .operator lookup.symbol (d.mark index)

def Condition.predicate (d : Dialect) (base : Option String) (index : Nat) :
    Condition → Predicate
  | always => .always
  | compare field lookup operand =>
    .compare (.ofComparison lookup operand (.ofPath base field))
      (.ofComparison d index lookup operand)
  | not c => .not (c.predicate d base index)
  | and left right =>
    .and (left.predicate d base index) (right.predicate d base (index + left.bound.length))
  | or left right =>
    .or (left.predicate d base index) (right.predicate d base (index + left.bound.length))

theorem Value.toBool?_getD (v : Value) : v.toBool?.getD true = !v.saysNo := by
  cases v with
  | boolean b => simp [toBool?, saysNo]
  | integer n => simp [toBool?, saysNo, bne]
  | string s =>
    simp only [toBool?, saysNo]
    by_cases yes : Text.lowerText s = "true" ∨ Text.lowerText s = "1"
    · rw [if_pos yes]
      rcases yes with yes | yes <;> simp [yes]
    · rw [if_neg yes]
      by_cases no : Text.lowerText s = "false" ∨ Text.lowerText s = "0"
      · rw [if_pos no]
        rcases no with no | no <;> simp [no]
      · rw [if_neg no]
        simpa using not_or.mp no
  | decimal _ | date _ => rfl

/-! ## Columns and lists -/

namespace Sql

def ColumnRef.lexemes (c : ColumnRef) : List Lexeme :=
  match c.table with
  | some table => [.name table, .mark '.', .name c.name]
  | none => [.name c.name]

theorem column?_lexemes {c : ColumnRef} {rest : List Lexeme}
    (noDot : rest.head? ≠ some (.mark '.')) :
    column? (c.lexemes ++ rest) = some (c, rest) := by
  obtain ⟨table, name⟩ := c
  cases table with
  | some table => rfl
  | none =>
    change column? (.name name :: rest) = _
    rw [column?.eq_2]
    rintro other rest' rfl
    exact noDot rfl

theorem lexemes_columnSql (d : Dialect) (index : Nat) (base : Option String) (path : String) :
    lexemesFrom d index (columnSql base path) = (ColumnRef.ofPath base path).lexemes := by
  cases split : Field.split? path with
  | some parts =>
    simp only [columnSql, ColumnRef.ofPath, split]
    rfl
  | none => cases base <;> simp only [columnSql, ColumnRef.ofPath, split] <;> rfl

theorem lexemes_columnSql_append (d : Dialect) (index : Nat) (base : Option String) (path : String)
    (fs : List Fragment) : lexemesFrom d index (columnSql base path ++ fs) =
      (ColumnRef.ofPath base path).lexemes ++ lexemesFrom d index fs := by
  rw [lexemesFrom_append, lexemes_columnSql, params_columnSql]
  rfl

theorem lexemes_commaSeparated (d : Dialect) (index : Nat) {parts : List (List Fragment)}
    (unbound : ∀ part ∈ parts, params part = []) :
    lexemesFrom d index (commaSeparated parts) =
      [Lexeme.mark ','].intercalate (parts.map (lexemesFrom d index)) := by
  rw [commaSeparated]
  induction parts with
  | nil => rfl
  | cons part parts ih =>
    have tail := ih fun p member => unbound p (List.mem_cons_of_mem _ member)
    cases parts with
    | nil => simp
    | cons next parts =>
      rw [List.map_cons, List.map_cons, List.intercalate_cons_cons, List.intercalate_cons_cons,
        List.append_assoc, lexemesFrom_append, unbound part (List.mem_cons_self ..)]
      rw [List.map_cons] at tail
      rw [List.append_assoc, ← tail]
      rfl

theorem lexemes_paramList (d : Dialect) (index : Nat) (vs : List Value) :
    lexemesFrom d index (paramList vs) =
      [Lexeme.mark ','].intercalate
        ((List.range' index vs.length).map fun k => [.placeholder (d.mark k)]) := by
  induction vs generalizing index with
  | nil => rfl
  | cons v vs ih =>
    have tail := ih (index + 1)
    cases vs with
    | nil => rfl
    | cons next vs =>
      rw [paramList, List.map_cons, List.map_cons, List.intercalate_cons_cons]
      rw [paramList, List.map_cons] at tail
      rw [List.length_cons, List.range'_succ, List.map_cons, List.length_cons, List.range'_succ,
        List.map_cons, List.intercalate_cons_cons]
      rw [List.length_cons, List.range'_succ, List.map_cons] at tail
      rw [← tail]
      rfl

/-! ## Comparisons -/

theorem ColumnRef.lexemes_cons (c : ColumnRef) : ∃ s more, c.lexemes = .name s :: more := by
  obtain ⟨table, name⟩ := c
  cases table with
  | some table => exact ⟨table, [.mark '.', .name name], rfl⟩
  | none => exact ⟨name, [], rfl⟩

theorem negation?_name (s : String) (ts : List Lexeme) :
    negation? (.name s :: ts) = comparison? (.name s :: ts) := by
  rw [negation?.eq_def]

theorem negation?_word {w : String} (notNegation : w ≠ "NOT") (notOne : w ≠ "1")
    (ts : List Lexeme) : negation? (.word w :: ts) = comparison? (.word w :: ts) := by
  rw [negation?.eq_def]
  split
  · rename_i same
    exact absurd (Lexeme.word.inj (List.cons.inj same).1) notNegation
  · rename_i same
    cases (List.cons.inj same).1
  · rename_i same
    exact absurd (Lexeme.word.inj (List.cons.inj same).1) notOne
  · rfl

theorem expression?_column {c : ColumnRef} {ts : List Lexeme}
    (noDot : ts.head? ≠ some (.mark '.')) :
    expression? (c.lexemes ++ ts) = some (.column c, ts) := by
  have read := column?_lexemes (c := c) noDot
  obtain ⟨s, more, lexemes⟩ := c.lexemes_cons
  rw [lexemes, List.cons_append] at read ⊢
  change Option.bind (column? _) _ = _
  rw [read]
  rfl

theorem negation?_compare {ts us rest : List Lexeme} {e : Expression} {t : Test}
    (starts : negation? ts = comparison? ts) (read : expression? ts = some (e, us))
    (tested : test? us = some (t, rest)) : negation? ts = some (.compare e t, rest) := by
  rw [starts, comparison?, read]
  simp only [Option.bind_eq_bind, Option.bind_some, tested]
  rfl

theorem column?_closing (c : ColumnRef) (ts : List Lexeme) :
    column? (c.lexemes ++ .mark ')' :: ts) = some (c, .mark ')' :: ts) :=
  column?_lexemes (by simp)

theorem expression?_part (d : Dialect) (c : ColumnRef) {part : String}
    (known : part ∈ ["YEAR", "MONTH", "DAY"]) (index : Nat) (ts : List Lexeme) :
    expression? ((word (d.datePartOpening part)).lexemes d index ++
      (c.lexemes ++ .mark ')' :: ts)) = some (.part part c, ts) := by
  simp only [List.mem_cons, List.not_mem_nil, or_false] at known
  rcases known with rfl | rfl | rfl <;> cases d
  all_goals
    change Option.bind (column? (c.lexemes ++ .mark ')' :: ts)) _ = _
    rw [column?_closing]
    rfl

theorem expression?_date (d : Dialect) (c : ColumnRef) (index : Nat) (ts : List Lexeme) :
    expression? ((word d.dateOpening).lexemes d index ++
      (c.lexemes ++ ((word d.dateClosing).lexemes d index ++ ts))) = some (.date c, ts) := by
  cases d with
  | postgres =>
    change Option.bind (column? (c.lexemes ++ .word "AS" :: .word "DATE" :: .mark ')' :: ts)) _ = _
    rw [column?_lexemes (by simp)]
    rfl
  | mysql =>
    change Option.bind (column? (c.lexemes ++ .mark ')' :: ts)) _ = _
    rw [column?_closing]
    rfl

theorem head_of_test? {ts rest : List Lexeme} {t : Test} (read : test? ts = some (t, rest)) :
    ts.head? ≠ some (.mark '.') := by
  intro dot
  cases ts with
  | nil => cases dot
  | cons l ts =>
    cases Option.some.inj dot
    cases read

theorem test?_list (d : Dialect) (index : Nat) (vs : List Value) (rest : List Lexeme) :
    test? (lexemesFrom d index (.word " IN (" :: (paramList vs ++ [.word ")"])) ++ rest) =
      some (.oneOf ((List.range' index vs.length).map d.mark), rest) := by
  have unfolded : lexemesFrom d index (.word " IN (" :: (paramList vs ++ [.word ")"])) ++ rest =
      .word "IN" :: .mark '(' :: (lexemesFrom d index (paramList vs) ++ .mark ')' :: rest) := by
    change .word "IN" :: .mark '(' ::
      (lexemesFrom d index (paramList vs ++ [.word ")"]) ++ rest) = _
    rw [lexemesFrom_append, List.append_assoc]
    rfl
  rw [unfolded]
  cases vs with
  | nil => rfl
  | cons v vs =>
    have items : list? (.mark ',') parameter?
        (lexemesFrom d index (paramList (v :: vs)) ++ .mark ')' :: rest) =
          some ((List.range' index (v :: vs).length).map d.mark, .mark ')' :: rest) := by
      rw [lexemes_paramList]
      exact list?_intercalate (fun _ _ => ⟨rfl, fun _ => rfl⟩) (by simp) (by simp)
    have notClosed : ∃ more,
        lexemesFrom d index (paramList (v :: vs)) = .placeholder (d.mark index) :: more := by
      cases vs <;> exact ⟨_, rfl⟩
    obtain ⟨more, first⟩ := notClosed
    rw [first, List.cons_append] at items ⊢
    change Option.bind (list? (.mark ',') parameter? _) _ = _
    rw [items]
    rfl

theorem negation?_bare (d : Dialect) (index : Nat) (base : Option String) (path : String)
    {fs : List Fragment} {rest : List Lexeme} {t : Test}
    (read : test? (lexemesFrom d index fs ++ rest) = some (t, rest)) :
    negation? (lexemesFrom d index (columnSql base path ++ fs) ++ rest) =
      some (.compare (.column (.ofPath base path)) t, rest) := by
  rw [lexemes_columnSql_append, List.append_assoc]
  refine negation?_compare ?_ (expression?_column (head_of_test? read)) read
  obtain ⟨s, more, lexemes⟩ := (ColumnRef.ofPath base path).lexemes_cons
  rw [lexemes]
  exact negation?_name s _

theorem negation?_part (d : Dialect) (index : Nat) (base : Option String) (path : String)
    {part : String} (known : part ∈ ["YEAR", "MONTH", "DAY"]) (v : Value) (rest : List Lexeme) :
    negation? (lexemesFrom d index (.word (d.datePartOpening part) ::
        (columnSql base path ++ [.word ")", .word " = ", .param v])) ++ rest) =
      some (.compare (.part part (.ofPath base path)) (.operator "=" (d.mark index)), rest) := by
  rw [lexemesFrom, lexemes_columnSql_append, List.append_assoc, List.append_assoc]
  refine negation?_compare ?_ (expression?_part d (.ofPath base path) known index _) rfl
  simp only [List.mem_cons, List.not_mem_nil, or_false] at known
  rcases known with rfl | rfl | rfl <;> cases d <;> exact negation?_word (by decide) (by decide) _

theorem negation?_date (d : Dialect) (index : Nat) (base : Option String) (path : String)
    (v : Value) (rest : List Lexeme) :
    negation? (lexemesFrom d index (.word d.dateOpening ::
        (columnSql base path ++ [.word d.dateClosing, .word " = ", .param v])) ++ rest) =
      some (.compare (.date (.ofPath base path)) (.operator "=" (d.mark index)), rest) := by
  rw [lexemesFrom, lexemes_columnSql_append, lexemesFrom, List.append_assoc, List.append_assoc,
    List.append_assoc]
  refine negation?_compare ?_ (expression?_date d (.ofPath base path) index _) rfl
  cases d <;> exact negation?_word (by decide) (by decide) _

theorem negation?_comparison (d : Dialect) (index : Nat) (base : Option String) (field : String)
    (lookup : Lookup) (operand : Operand) (rest : List Lexeme) :
    negation?
        (lexemesFrom d index (comparisonSql d (columnSql base field) lookup operand) ++ rest) =
      some (.compare (.ofComparison lookup operand (.ofPath base field))
        (.ofComparison d index lookup operand), rest) := by
  cases operand with
  | list vs =>
    have bare : Expression.ofComparison lookup (.list vs) (.ofPath base field) =
        .column (.ofPath base field) := by
      cases lookup <;> rfl
    rw [comparisonSql_list, bare]
    exact negation?_bare d index base field (test?_list d index vs rest)
  | range first last =>
    have bare : Expression.ofComparison lookup (.range first last) (.ofPath base field) =
        .column (.ofPath base field) := by
      cases lookup <;> rfl
    rw [comparisonSql_range, bare]
    exact negation?_bare d index base field rfl
  | scalar v =>
    cases lookup with
    | isNull | isNotNull =>
      refine negation?_bare d index base field ?_
      simp only [Test.ofComparison, v.toBool?_getD]
      cases v.saysNo <;> rfl
    | contains | startsWith | endsWith =>
      refine negation?_bare d index base field ?_
      cases d <;> rfl
    | equals | oneOf | dateRange | isTrue | isFalse | less | greater | atMost | atLeast =>
      exact negation?_bare d index base field rfl
    | year | month | day => exact negation?_part d index base field (by decide) v rest
    | onDate => exact negation?_date d index base field v rest

/-! ## Conditions -/

def EndsCondition (ts : List Lexeme) : Prop :=
  ts.head? ≠ some (.word "AND") ∧ ts.head? ≠ some (.word "OR")

theorem endsCondition_closing (ts : List Lexeme) : EndsCondition (.mark ')' :: ts) := by
  simp [EndsCondition]

theorem conjunctionFrom?_end (p : Predicate) {ts : List Lexeme}
    (noAnd : ts.head? ≠ some (.word "AND")) : conjunctionFrom? p ts = some (p, ts) := by
  rw [conjunctionFrom?.eq_def]
  split
  · exact absurd rfl noAnd
  · rfl

theorem disjunctionFrom?_end (p : Predicate) {ts : List Lexeme}
    (noOr : ts.head? ≠ some (.word "OR")) : disjunctionFrom? p ts = some (p, ts) := by
  rw [disjunctionFrom?.eq_def]
  split
  · exact absurd rfl noOr
  · rfl

variable {ts us rest : List Lexeme} {p q : Predicate}

theorem conjunction?_single (read : negation? (ts ++ rest) = some (p, rest))
    (noAnd : rest.head? ≠ some (.word "AND")) : conjunction? (ts ++ rest) = some (p, rest) := by
  rw [conjunction?, read, within_some (by simp)]
  exact conjunctionFrom?_end p noAnd

theorem disjunction?_single (read : negation? (ts ++ rest) = some (p, rest))
    (ends : EndsCondition rest) : disjunction? (ts ++ rest) = some (p, rest) := by
  rw [disjunction?, conjunction?_single read ends.1, within_some (by simp)]
  exact disjunctionFrom?_end p ends.2

theorem disjunction?_and
    (left : negation? (ts ++ .word "AND" :: (us ++ rest)) = some (p, .word "AND" :: (us ++ rest)))
    (right : negation? (us ++ rest) = some (q, rest)) (ends : EndsCondition rest) :
    disjunction? (ts ++ .word "AND" :: (us ++ rest)) = some (.and p q, rest) := by
  have conjunction : conjunction? (ts ++ .word "AND" :: (us ++ rest)) = some (.and p q, rest) := by
    rw [conjunction?, left, within_some (by simp)]
    simp only [Option.bind_eq_bind, Option.bind_some]
    rw [conjunctionFrom?, right, within_some (by simp)]
    exact conjunctionFrom?_end _ ends.1
  rw [disjunction?, conjunction, within_some (by simp; omega)]
  exact disjunctionFrom?_end _ ends.2

theorem disjunction?_or
    (left : negation? (ts ++ .word "OR" :: (us ++ rest)) = some (p, .word "OR" :: (us ++ rest)))
    (right : negation? (us ++ rest) = some (q, rest)) (ends : EndsCondition rest) :
    disjunction? (ts ++ .word "OR" :: (us ++ rest)) = some (.or p q, rest) := by
  rw [disjunction?, conjunction?_single left (by simp), within_some (by simp)]
  simp only [Option.bind_eq_bind, Option.bind_some]
  rw [disjunctionFrom?, conjunction?_single right ends.1, within_some (by simp)]
  exact disjunctionFrom?_end _ ends.2

theorem negation?_group (read : disjunction? ts = some (p, .mark ')' :: rest)) :
    negation? (.mark '(' :: ts) = some (p, rest) := by
  rw [negation?, read]
  rfl

theorem negation?_not (read : negation? ts = some (p, rest)) :
    negation? (.word "NOT" :: ts) = some (.not p, rest) := by
  rw [negation?, read]
  rfl

/-- Every condition is read as one operand: what holds it together is inside its text. -/
theorem negation?_condition (d : Dialect) (base : Option String) (c : Condition) (index : Nat)
    (rest : List Lexeme) : negation? (lexemesFrom d index (c.sql d base) ++ rest) =
      some (c.predicate d base index, rest) := by
  induction c generalizing index rest with
  | always =>
    rw [negation?.eq_def]
    rfl
  | compare field lookup operand =>
    exact negation?_comparison d index base field lookup operand rest
  | not c ih =>
    have unfolded : lexemesFrom d index (c.not.sql d base) ++ rest =
        .word "NOT" :: .mark '(' :: (lexemesFrom d index (c.sql d base) ++ .mark ')' :: rest) := by
      rw [Condition.sql, lexemesFrom_append, List.append_assoc]
      rfl
    rw [unfolded]
    exact negation?_not (negation?_group (disjunction?_single (ih index _)
      (endsCondition_closing rest)))
  | and left right ihLeft ihRight =>
    have unfolded : lexemesFrom d index ((left.and right).sql d base) ++ rest =
        .mark '(' :: (lexemesFrom d index (left.sql d base) ++ .word "AND" ::
          (lexemesFrom d (index + left.bound.length) (right.sql d base) ++ .mark ')' :: rest)) := by
      rw [Condition.sql, lexemesFrom_append, lexemesFrom_append, List.append_assoc,
        List.append_assoc, params_word, params_condition]
      rfl
    rw [unfolded]
    exact negation?_group (disjunction?_and (ihLeft index _) (ihRight _ _)
      (endsCondition_closing rest))
  | or left right ihLeft ihRight =>
    have unfolded : lexemesFrom d index ((left.or right).sql d base) ++ rest =
        .mark '(' :: (lexemesFrom d index (left.sql d base) ++ .word "OR" ::
          (lexemesFrom d (index + left.bound.length) (right.sql d base) ++ .mark ')' :: rest)) := by
      rw [Condition.sql, lexemesFrom_append, lexemesFrom_append, List.append_assoc,
        List.append_assoc, params_word, params_condition]
      rfl
    rw [unfolded]
    exact negation?_group (disjunction?_or (ihLeft index _) (ihRight _ _)
      (endsCondition_closing rest))

end Sql
end SavedFilter
