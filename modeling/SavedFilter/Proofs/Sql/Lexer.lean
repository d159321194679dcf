import SavedFilter.Sql.Fragment

/-! # The lexemes of SQL text

A lexer that knows the quotes of a dialect and nothing of what wrote the text. It goes through the
characters once, and a lexeme ends at the first character that cannot belong to it. Inside quotes
every character belongs to a name, and two quotes in a row stand for one.

A text lexes as its parts do, one after the other, where no lexeme goes on from one part into the
next, `lexFrom_append` and `lexFrom_of_stops`. A quoted name is one lexeme, with the characters of
the name and no others, `scan_quote`. -/
set_option autoImplicit false
namespace SavedFilter.Sql

inductive Lexeme where
  /-- A run of letters and digits, or an operator. -/
  | word (s : String)
  | mark (c : Char)
  | name (s : String)
  | placeholder (s : String)
deriving DecidableEq

inductive LexState where
  | blank
  | word (cs : List Char)
  | operator (cs : List Char)
  | mark (c : Char)
  | placeholder (cs : List Char)
  | quoted (cs : List Char)
  /-- A quote was read inside quotes: the end of the name, or the first of two. -/
  | closed (cs : List Char)
deriving DecidableEq

def nameQuote : Dialect → Char
  | .postgres => '\x22'
  | .mysql => '\x60'

def isMark (c : Char) : Bool := c ∈ ['(', ')', ',', '.', '*']

def isWordChar (c : Char) : Bool := c.isAlphanum || c == '_'

def isOperatorChar (c : Char) : Bool := c ∈ ['<', '>', '=']

/-- Blanks and marks belong to no longer lexeme. -/
def isBorder (c : Char) : Bool := c == ' ' || isMark c

def LexState.start? (d : Dialect) (c : Char) : Option LexState :=
  if c = ' ' then some .blank
  else if c = nameQuote d then some (.quoted [])
  else if isMark c then some (.mark c)
  else if isWordChar c then some (.word [c])
  else if isOperatorChar c then some (.operator [c])
  else if c = '$' ∨ c = '?' then some (.placeholder [c])
  else none

def LexState.extend? (d : Dialect) (c : Char) : LexState → Option LexState
  | blank | mark _ => none
  | word cs => if isWordChar c then some (.word (cs ++ [c])) else none
  | operator cs => if isOperatorChar c then some (.operator (cs ++ [c])) else none
  | placeholder cs => if c.isDigit then some (.placeholder (cs ++ [c])) else none
  | quoted cs => some (if c = nameQuote d then .closed cs else .quoted (cs ++ [c]))
  | closed cs => if c = nameQuote d then some (.quoted (cs ++ [c])) else none

/-- The lexemes of what was read, unless a quote is missing. -/
def LexState.finished? : LexState → Option (List Lexeme)
  | blank => some []
  | word cs | operator cs => some [.word (String.ofList cs)]
  | mark c => some [.mark c]
  | placeholder cs => some [.placeholder (String.ofList cs)]
  | quoted _ => none
  | closed cs => some [.name (String.ofList cs)]

def LexState.step (d : Dialect) (s : LexState) (c : Char) : Option (List Lexeme × LexState) :=
  match s.extend? d c with
  | some t => some ([], t)
  | none => do
    let done ← s.finished?
    let t ← LexState.start? d c
    return (done, t)

/-- The lexemes that end in a text, and the state behind it. -/
def scan (d : Dialect) (s : LexState) : List Char → Option (List Lexeme × LexState)
  | [] => some ([], s)
  | c :: cs => do
    let (done, t) ← s.step d c
    let (more, u) ← scan d t cs
    return (done ++ more, u)

def lexFrom (d : Dialect) (s : LexState) (cs : List Char) : Option (List Lexeme) := do
  let (done, t) ← scan d s cs
  let last ← t.finished?
  return done ++ last

def lex (d : Dialect) (text : String) : Option (List Lexeme) := lexFrom d .blank text.toList

variable (d : Dialect)

@[simp]
theorem nameQuote_eq : nameQuote d = d.quoteChar := by
  cases d <;> rfl

theorem scan_cons_of_extend {s t : LexState} {c : Char} (extendsTo : s.extend? d c = some t)
    (cs : List Char) : scan d s (c :: cs) = scan d t cs := by
  rw [scan, LexState.step, extendsTo]
  cases rest : scan d t cs with
  | none => simp [rest]
  | some p => simp [rest]

theorem scan_append (s : LexState) (xs ys : List Char) :
    scan d s (xs ++ ys) = do
      let (done, t) ← scan d s xs
      let (more, u) ← scan d t ys
      return (done ++ more, u) := by
  induction xs generalizing s with
  | nil =>
    simp only [List.nil_append, scan, Option.bind_eq_bind, Option.bind_some]
    cases scan d s ys with
    | none => rfl
    | some p => rfl
  | cons x xs ih =>
    rw [List.cons_append, scan, scan]
    cases s.step d x with
    | none => rfl
    | some first =>
      obtain ⟨done, t⟩ := first
      simp only [Option.bind_eq_bind, Option.bind_some, ih]
      cases scan d t xs with
      | none => rfl
      | some second =>
        obtain ⟨more, u⟩ := second
        cases rest : scan d u ys with
        | none => simp [rest]
        | some p => simp [rest]

theorem lexFrom_append {s t : LexState} {xs : List Char} {done : List Lexeme}
    (scanned : scan d s xs = some (done, t)) (ys : List Char) :
    lexFrom d s (xs ++ ys) = (lexFrom d t ys).map (done ++ ·) := by
  rw [lexFrom, lexFrom, scan_append, scanned]
  cases rest : scan d t ys with
  | none => simp [rest]
  | some second =>
    obtain ⟨more, u⟩ := second
    cases last : u.finished? with
    | none => simp [rest, last]
    | some lexemes => simp [rest, last, List.append_assoc]

/-- No lexeme goes on from the state into the text. -/
def Stops (s : LexState) (cs : List Char) : Prop := ∀ c, cs.head? = some c → s.extend? d c = none

theorem lexFrom_nil (s : LexState) : lexFrom d s [] = s.finished? := by
  cases s <;> rfl

theorem step_of_ended {s : LexState} {c : Char} {done : List Lexeme}
    (finished : s.finished? = some done) (ended : s.extend? d c = none) :
    s.step d c = (LexState.start? d c).map fun t => (done, t) := by
  rw [LexState.step, ended]
  simp only [finished, Option.bind_eq_bind, Option.bind_some]
  cases LexState.start? d c <;> rfl

/-- Where a lexeme ends, the rest of the text is lexed as a text of its own. -/
theorem lexFrom_of_stops {s : LexState} {cs : List Char} {done : List Lexeme}
    (finished : s.finished? = some done) (stops : Stops d s cs) :
    lexFrom d s cs = (lexFrom d .blank cs).map (done ++ ·) := by
  cases cs with
  | nil =>
    have nothing : lexFrom d .blank [] = some [] := rfl
    rw [lexFrom_nil, finished, nothing, Option.map_some, List.append_nil]
  | cons c cs =>
    rw [lexFrom, lexFrom, scan, scan, step_of_ended d finished (stops c rfl),
      step_of_ended d (s := .blank) rfl rfl]
    cases LexState.start? d c with
    | none => rfl
    | some t =>
      cases rest : scan d t cs with
      | none => simp [rest]
      | some p =>
        obtain ⟨more, u⟩ := p
        cases last : u.finished? with
        | none => simp [rest, last]
        | some lexemes => simp [rest, last]

/-! ## Where lexemes stop -/

def LexState.isApart : LexState → Bool
  | blank | mark _ => true
  | _ => false

theorem stops_of_isApart {s : LexState} (apart : s.isApart) (cs : List Char) : Stops d s cs := by
  intro c _
  cases s with
  | blank => rfl
  | mark _ => rfl
  | word _ | operator _ | placeholder _ | quoted _ | closed _ => cases apart

theorem not_quoteChar_of_isBorder {c : Char} (border : isBorder c) : c ≠ d.quoteChar := by
  intro same
  rw [same] at border
  cases d <;> exact absurd border (by decide)

theorem not_extending_of_isBorder {c : Char} (border : isBorder c) :
    isWordChar c = false ∧ isOperatorChar c = false ∧ c.isDigit = false := by
  have casesOf : c ∈ [' ', '(', ')', ',', '.', '*'] := by
    simpa [isBorder, isMark] using border
  simp only [List.mem_cons, List.not_mem_nil, or_false] at casesOf
  rcases casesOf with rfl | rfl | rfl | rfl | rfl | rfl <;> exact ⟨rfl, rfl, rfl⟩

theorem stops_of_isBorder {s : LexState} {done : List Lexeme} {c : Char}
    (finished : s.finished? = some done) (border : isBorder c) (cs : List Char) :
    Stops d s (c :: cs) := by
  intro c' head
  obtain rfl : c = c' := Option.some.inj head
  obtain ⟨notWord, notOperator, notDigit⟩ := not_extending_of_isBorder border
  cases s with
  | blank => rfl
  | mark _ => rfl
  | word _ => simp [LexState.extend?, notWord]
  | operator _ => simp [LexState.extend?, notOperator]
  | placeholder _ => simp [LexState.extend?, notDigit]
  | quoted _ => cases finished
  | closed _ => simp [LexState.extend?, not_quoteChar_of_isBorder d border]

/-! ## Names and placeholders -/

theorem scan_quoted (cs : List Char) (identifier rest : List Char) :
    scan d (.quoted cs)
        (identifier.flatMap (fun c => if c = d.quoteChar then [c, c] else [c]) ++ rest) =
      scan d (.quoted (cs ++ identifier)) rest := by
  induction identifier generalizing cs with
  | nil => simp
  | cons c identifier ih =>
    rw [List.flatMap_cons, List.append_assoc]
    by_cases quote : c = d.quoteChar
    · -- the first of the two quotes seems to end the name, the second takes that back
      have seen : (LexState.quoted cs).extend? d c = some (.closed cs) := by
        simp [LexState.extend?, quote]
      have kept : (LexState.closed cs).extend? d c = some (.quoted (cs ++ [c])) := by
        simp [LexState.extend?, quote]
      rw [if_pos quote, List.cons_append, List.cons_append, List.nil_append,
        scan_cons_of_extend d seen, scan_cons_of_extend d kept, ih, List.append_assoc]
      rfl
    · have kept : (LexState.quoted cs).extend? d c = some (.quoted (cs ++ [c])) := by
        simp [LexState.extend?, quote]
      rw [if_neg quote, List.cons_append, List.nil_append, scan_cons_of_extend d kept, ih,
        List.append_assoc]
      rfl

theorem scan_quote (identifier : List Char) :
    scan d .blank (d.quote identifier) = some ([], .closed identifier) := by
  have opened : LexState.blank.step d d.quoteChar = some ([], .quoted []) := by
    cases d <;> rfl
  have closed : (LexState.quoted identifier).extend? d d.quoteChar = some (.closed identifier) := by
    simp [LexState.extend?]
  rw [Dialect.quote, List.cons_append, scan, opened]
  simp only [Option.bind_eq_bind, Option.bind_some]
  rw [scan_quoted, List.nil_append, scan_cons_of_extend d closed]
  rfl

example : lex .postgres "\x22a\x22\x22 OR $1\x22 = $2" =
    some [.name "a\x22 OR $1", .word "=", .placeholder "$2"] := by decide

theorem scan_digits (cs digits : List Char) (allDigits : ∀ c ∈ digits, c.isDigit) :
    scan d (.placeholder cs) digits = some ([], .placeholder (cs ++ digits)) := by
  induction digits generalizing cs with
  | nil => simp [scan]
  | cons c digits ih =>
    have kept : (LexState.placeholder cs).extend? d c = some (.placeholder (cs ++ [c])) := by
      simp [LexState.extend?, allDigits c (List.mem_cons_self ..)]
    have others : ∀ c ∈ digits, c.isDigit := fun c member =>
      allDigits c (List.mem_cons_of_mem _ member)
    rw [scan_cons_of_extend d kept, ih _ others, List.append_assoc]
    rfl

theorem scan_placeholder (index : Nat) :
    scan d .blank (d.placeholder index) = some ([], .placeholder (d.placeholder index)) := by
  cases d with
  | mysql => rfl
  | postgres =>
    have opened : LexState.blank.step .postgres '$' = some ([], .placeholder ['$']) := rfl
    have digits : ∀ c ∈ Nat.toDigits 10 (index + 1), c.isDigit := by
      intro c member
      exact Nat.isDigit_of_mem_toDigits (by decide) (by decide) member
    rw [Dialect.placeholder, scan, opened]
    simp only [Option.bind_eq_bind, Option.bind_some]
    rw [scan_digits _ _ _ digits]
    rfl

end SavedFilter.Sql
