import SavedFilter.Compile.Program
import SavedFilter.Proofs.Compile.Reading

/-! # The program of a reading

The normal form of terms and the operators that wait make one program out of them.
`program_of_reads` says which: where the terms read as a tree, their program is that tree in
reverse Polish order. The proof follows the grammar. Behind an operand that is complete, an operator
that binds at least as tightly as whatever may come next can be released at once, `release_early`,
so at the end of each phrase the operators that wait are those that waited before it. -/
set_option autoImplicit false
namespace SavedFilter

def Connective.operator : Connective → Operator
  | and => .and
  | or => .or

def Connective.mark : Connective → Token.Kind
  | and => .and
  | or => .or

/-! ## The normal form, one term at a time -/

namespace Token

def ofPlaced (ts : List PlacedTerm) : List Token := ts.map fun (t, position) => ofTerm position t

theorem ofPlaced_nil : ofPlaced [] = [] := rfl

theorem ofPlaced_cons (t : Term) (n : Nat) (ts : List PlacedTerm) :
    ofPlaced ((t, n) :: ts) = ofTerm n t :: ofPlaced ts := rfl

/-- The normal form of tokens behind a complete operand. -/
def followed (ts : List Token) : List Token := normalAfter (some (implicit .closing)) ts

theorem normalAfter_of_expectsOperand {p : Token} (h : p.expectsOperand) (ts : List Token) :
    normalAfter (some p) ts = normal ts := by
  have unfinished : p.endsOperand = false := by
    cases kind : p.kind <;> simp_all [expectsOperand, endsOperand]
  cases ts with
  | nil => simp [normal, normalAfter, lastGap, h]
  | cons t ts => simp [normal, normalAfter, gap, h, unfinished]

theorem normalAfter_of_endsOperand {p : Token} (h : p.endsOperand) (ts : List Token) :
    normalAfter (some p) ts = followed ts := by
  have complete : p.expectsOperand = false := by
    cases kind : p.kind <;> simp_all [expectsOperand, endsOperand]
  have closingEnds : (implicit .closing).endsOperand = true := rfl
  have closingComplete : (implicit .closing).expectsOperand = false := rfl
  cases ts with
  | nil => simp [followed, normalAfter, lastGap, complete, closingComplete]
  | cons t ts => simp [followed, normalAfter, gap, h, complete, closingEnds, closingComplete]

section Placed

variable {t : Term} (n : Nat) (ts : List PlacedTerm)

theorem normal_condition (atomic : t.isAtomic) :
    normal (ofPlaced ((t, n) :: ts)) = ⟨.atom t, some n⟩ :: followed (ofPlaced ts) := by
  have kind : ofTerm n t = ⟨.atom t, some n⟩ := by
    cases operator : t.operator <;> simp_all [ofTerm, Term.isAtomic, Operator.isAtomic]
  rw [ofPlaced_cons, kind]
  exact congrArg _ (normalAfter_of_endsOperand rfl _)

theorem normal_opening (operator : t.operator = .opening) :
    normal (ofPlaced ((t, n) :: ts)) = ⟨.opening, some n⟩ :: normal (ofPlaced ts) := by
  have kind : ofTerm n t = ⟨.opening, some n⟩ := by simp [ofTerm, operator]
  rw [ofPlaced_cons, kind]
  exact congrArg _ (normalAfter_of_expectsOperand rfl _)

theorem normal_empty {ts : List PlacedTerm} (h : ∀ p ∈ ts.head?, p.1.startsOperand = false) :
    normal (ofPlaced ts) = implicit .filler :: followed (ofPlaced ts) := by
  cases ts with
  | nil => rfl
  | cons p ts =>
    obtain ⟨t, n⟩ := p
    have noneStarts : t.startsOperand = false := h (t, n) rfl
    rw [ofPlaced_cons]
    cases operator : t.operator <;>
      simp_all [Term.startsOperand, Term.isAtomic, Operator.isAtomic, normal, followed, normalAfter,
        gap, ofTerm, followsOperand, startsOperand, expectsOperand, implicit]

theorem followed_nil : followed [] = [] := rfl

theorem followed_operand (starts : t.startsOperand) :
    followed (ofPlaced ((t, n) :: ts)) =
      ⟨Connective.and.mark, none⟩ :: normal (ofPlaced ((t, n) :: ts)) := by
  rw [ofPlaced_cons]
  cases operator : t.operator <;>
    simp_all [Term.startsOperand, Term.isAtomic, Operator.isAtomic, normal, followed, normalAfter,
      gap, ofTerm, followsOperand, startsOperand, endsOperand, implicit, Connective.mark]

theorem followed_mark (c : Connective) (operator : t.operator = c.operator) :
    followed (ofPlaced ((t, n) :: ts)) = ⟨c.mark, some n⟩ :: normal (ofPlaced ts) := by
  have kind : ofTerm n t = ⟨c.mark, some n⟩ := by
    cases c <;> simp_all [ofTerm, Connective.operator, Connective.mark]
  have expects : (⟨c.mark, some n⟩ : Token).expectsOperand := by cases c <;> rfl
  have gapNil : gap (some (implicit .closing)) ⟨c.mark, some n⟩ = [] := by cases c <;> rfl
  rw [ofPlaced_cons, kind, followed, normalAfter, normalAfter_of_expectsOperand expects, gapNil,
    List.nil_append]

theorem followed_closing (operator : t.operator = .closing) :
    followed (ofPlaced ((t, n) :: ts)) = ⟨.closing, some n⟩ :: followed (ofPlaced ts) := by
  have kind : ofTerm n t = ⟨.closing, some n⟩ := by simp [ofTerm, operator]
  rw [ofPlaced_cons, kind]
  exact congrArg _ (normalAfter_of_endsOperand rfl _)

end Placed

end Token

/-! ## The waiting operators, one token at a time -/

/-- How tightly the operator binds that comes between a complete operand and the term. -/
def Term.rankBefore (t : Term) : Nat :=
  match t.operator with
  | .closing => 0
  | .or => 1
  | _ => 2

theorem Term.rankBefore_le (t : Term) : t.rankBefore ≤ 2 := by
  cases operator : t.operator <;> simp [rankBefore, operator]

namespace Program

def Settled (rank : Nat) (ws : List Waiting) : Prop :=
  ∀ o rest, ws = .operation o :: rest → o.rank < rank

theorem settled_nil (rank : Nat) : Settled rank [] := by
  intro o rest h
  cases h

theorem settled_group (rank : Nat) (ws : List Waiting) : Settled rank (.group :: ws) := by
  intro o rest h
  cases h

theorem settled_operation {rank : Nat} {o : Operation} (h : o.rank < rank) (ws : List Waiting) :
    Settled rank (.operation o :: ws) := by
  intro o' rest same
  cases same
  exact h

theorem Settled.mono {rank rank' : Nat} {ws : List Waiting} (h : Settled rank ws)
    (le : rank ≤ rank') : Settled rank' ws := by
  intro o rest same
  exact Nat.lt_of_lt_of_le (h o rest same) le

theorem release_of_settled {rank : Nat} {ws : List Waiting} (h : Settled rank ws) :
    release rank ws = ([], ws) := by
  cases ws with
  | nil => rfl
  | cons w ws =>
    cases w with
    | group => rfl
    | operation o =>
      have looser : ¬ rank ≤ o.rank := Nat.not_le_of_lt (h o ws rfl)
      rw [release, if_neg looser]

theorem release_operation {rank : Nat} {o : Operation} (h : rank ≤ o.rank) (ws : List Waiting) :
    release rank (.operation o :: ws) =
      (.apply o :: (release rank ws).1, (release rank ws).2) := by
  rw [release, if_pos h]

theorem openGroups_operation (o : Operation) (ws : List Waiting) :
    openGroups (.operation o :: ws) = openGroups ws := by
  simp [openGroups]

section Token

variable (index : Nat) (ws : List Waiting) (ts : List Token)

theorem ofTokensFrom_condition (n : Nat) (t : Term) :
    ofTokensFrom index ws (⟨.atom t, some n⟩ :: ts) =
      .operand n t :: ofTokensFrom (index + 1) ws ts := rfl

theorem ofTokensFrom_opening (position : Option Nat) :
    ofTokensFrom index ws (⟨.opening, position⟩ :: ts) =
      ofTokensFrom (index + 1) (.group :: ws) ts := rfl

theorem ofTokensFrom_closing_group (position : Option Nat) :
    ofTokensFrom index (.group :: ws) (⟨.closing, position⟩ :: ts) =
      ofTokensFrom (index + 1) ws ts := rfl

theorem ofTokensFrom_closing_operation (position : Option Nat) (o : Operation) :
    ofTokensFrom index (.operation o :: ws) (⟨.closing, position⟩ :: ts) =
      .apply o :: ofTokensFrom index ws (⟨.closing, position⟩ :: ts) := by
  simp only [ofTokensFrom, releaseGroup]
  cases releaseGroup ws with
  | mk steps left => cases left <;> rfl

theorem ofTokensFrom_mark (position : Option Nat) (c : Connective) :
    ofTokensFrom index ws (⟨c.mark, position⟩ :: ts) =
      (release (Operation.join c).rank ws).1 ++
        ofTokensFrom (index + 1) (.operation (.join c) :: (release (Operation.join c).rank ws).2)
          ts := by
  cases c <;> rfl

theorem ofTokensFrom_filler :
    ofTokensFrom index ws (Token.implicit .filler :: ts) =
      (release 3 ws).1 ++ ofTokensFrom (index + 1) (.operation .always :: (release 3 ws).2) ts :=
  rfl

theorem ofTokensFrom_mark_release (position : Option Nat) {c : Connective} {o : Operation}
    (h : (Operation.join c).rank ≤ o.rank) :
    ofTokensFrom index (.operation o :: ws) (⟨c.mark, position⟩ :: ts) =
      .apply o :: ofTokensFrom index ws (⟨c.mark, position⟩ :: ts) := by
  rw [ofTokensFrom_mark, ofTokensFrom_mark, release_operation h, List.cons_append]

end Token

/-- Behind a complete operand an operator can be released at once, when what comes next binds no
tighter. At the end that needs every group closed. -/
theorem release_early (index : Nat) {o : Operation} {ws : List Waiting} {ts : List PlacedTerm}
    (next : ∀ p ∈ ts.head?, p.1.rankBefore ≤ o.rank) (ends : ts = [] → openGroups ws = 0) :
    ofTokensFrom index (.operation o :: ws) (Token.followed (Token.ofPlaced ts)) =
      .apply o :: ofTokensFrom index ws (Token.followed (Token.ofPlaced ts)) := by
  cases ts with
  | nil =>
    have closed : openGroups ws = 0 := ends rfl
    have released := release_operation (Nat.zero_le o.rank) ws
    simp [Token.ofPlaced_nil, Token.followed_nil, ofTokensFrom, finish, openGroups_operation,
      closed, released]
  | cons p ts =>
    obtain ⟨t, n⟩ := p
    have rank : t.rankBefore ≤ o.rank := next (t, n) rfl
    cases operator : t.operator with
    | plain | not | opening =>
      have starts : t.startsOperand := by
        simp [Term.startsOperand, Term.isAtomic, operator, Operator.isAtomic]
      have le : 2 ≤ o.rank := by simpa [Term.rankBefore, operator] using rank
      rw [Token.followed_operand n ts starts]
      exact ofTokensFrom_mark_release index ws _ none le
    | and =>
      have le : 2 ≤ o.rank := by simpa [Term.rankBefore, operator] using rank
      rw [Token.followed_mark n ts .and operator]
      exact ofTokensFrom_mark_release index ws _ (some n) le
    | or =>
      have le : 1 ≤ o.rank := by simpa [Term.rankBefore, operator] using rank
      rw [Token.followed_mark n ts .or operator]
      exact ofTokensFrom_mark_release index ws _ (some n) le
    | closing =>
      rw [Token.followed_closing n ts operator]
      exact ofTokensFrom_closing_operation index ws _ (some n) o

end Program

/-! ## The program follows the grammar -/

namespace TermTree

def code : TermTree → List Step
  | always => [.apply .always]
  | condition position t => [.operand position t]
  | join c left right => left.code ++ right.code ++ [.apply (.join c)]

/-- The operators that wait around a phrase bind less tightly than this. -/
def Phrase.rank : Phrase → Nat
  | .operand => 3
  | .conjunction => 2
  | .disjunction => 1

/-- What may stand behind a phrase, when the operators in it are released at its end. -/
def Phrase.Allows : Phrase → Term → Prop
  | .disjunction, t => t.rankBefore ≤ 1
  | _, _ => True

section Program

open Program Token

/-- A phrase of two parts: the connective between them waits until the second part is complete. -/
theorem code_join (c : Connective) {index : Nat} {ws : List Waiting} {ts next : List Token}
    {rest : List PlacedTerm} {left right : TermTree} {position : Option Nat}
    (settled : Settled (Operation.join c).rank ws)
    (first : ∃ index', ofTokensFrom index ws ts =
      left.code ++ ofTokensFrom index' ws (⟨c.mark, position⟩ :: next))
    (last : ∀ i, ∃ index', ofTokensFrom i (.operation (.join c) :: ws) next =
      right.code ++ ofTokensFrom index' (.operation (.join c) :: ws) (followed (ofPlaced rest)))
    (allowed : ∀ p ∈ rest.head?, p.1.rankBefore ≤ (Operation.join c).rank)
    (ends : rest = [] → openGroups ws = 0) :
    ∃ index', ofTokensFrom index ws ts =
      (join c left right).code ++ ofTokensFrom index' ws (followed (ofPlaced rest)) := by
  obtain ⟨index₁, first⟩ := first
  obtain ⟨index₂, last⟩ := last (index₁ + 1)
  refine ⟨index₂, ?_⟩
  rw [first, ofTokensFrom_mark, release_of_settled settled, List.nil_append, last,
    release_early _ allowed ends]
  simp [code]

/-- The normal form of terms that read as a tree, and of the rest, makes the code of the tree and
then what the rest makes. -/
theorem Reads.ofTokensFrom_normal {phrase : Phrase} {ts rest : List PlacedTerm} {tree : TermTree}
    (h : Reads phrase ts tree rest) (index : Nat) (ws : List Waiting)
    (settled : Settled phrase.rank ws) (allowed : ∀ p ∈ rest.head?, phrase.Allows p.1)
    (ends : rest = [] → openGroups ws = 0) :
    ∃ index', ofTokensFrom index ws (normal (ofPlaced ts)) =
      tree.code ++ ofTokensFrom index' ws (followed (ofPlaced rest)) := by
  induction h generalizing index ws with
  | condition atomic =>
    refine ⟨index + 1, ?_⟩
    rw [normal_condition _ _ atomic, ofTokensFrom_condition, code, List.singleton_append]
  | @group t u n k ts rest tree opening _ closing ih =>
    obtain ⟨index', inner⟩ := ih (index + 1) (.group :: ws) (settled_group _ ws)
      (by simp [Phrase.Allows, Term.rankBefore, closing]) (by simp)
    refine ⟨index' + 1, ?_⟩
    rw [normal_opening _ _ opening, ofTokensFrom_opening, inner, followed_closing _ _ closing,
      ofTokensFrom_closing_group]
  | empty noneStarts =>
    have settled : Settled 3 ws := settled
    have early := release_early (index + 1) (o := .always)
      (fun p _ => Nat.le_succ_of_le p.1.rankBefore_le) ends
    refine ⟨index + 1, ?_⟩
    rw [normal_empty noneStarts, ofTokensFrom_filler, release_of_settled settled, List.nil_append,
      early, code, List.singleton_append]
  | operand _ ih => exact ih index ws (settled.mono (by decide)) (fun _ _ => trivial) ends
  | @and t n ts mid rest left right _ mark _ ihFirst ihLast =>
    have first := ihFirst index ws settled (fun _ _ => trivial) (by simp)
    rw [followed_mark n mid .and mark] at first
    exact code_join .and settled first
      (fun i => ihLast i _ (settled_operation (by decide) ws) (fun _ _ => trivial)
        (by simpa [openGroups_operation] using ends))
      (fun p _ => p.1.rankBefore_le) ends
  | @adjacent t n ts mid rest left right _ starts _ ihFirst ihLast =>
    have first := ihFirst index ws settled (fun _ _ => trivial) (by simp)
    rw [followed_operand n mid starts] at first
    exact code_join .and settled first
      (fun i => ihLast i _ (settled_operation (by decide) ws) (fun _ _ => trivial)
        (by simpa [openGroups_operation] using ends))
      (fun p _ => p.1.rankBefore_le) ends
  | conjunction _ ih => exact ih index ws (settled.mono (by decide)) (fun _ _ => trivial) ends
  | @or t n ts mid rest left right _ mark _ ihFirst ihLast =>
    have first := ihFirst index ws settled (by simp [Phrase.Allows, Term.rankBefore, mark])
      (by simp)
    rw [followed_mark n mid .or mark] at first
    exact code_join .or settled first
      (fun i => ihLast i _ (settled_operation (by decide) ws) (fun _ _ => trivial)
        (by simpa [openGroups_operation] using ends))
      allowed ends

/-- The program of terms is their tree in reverse Polish order. -/
theorem program_of_reads {live : List Term} {tree : TermTree}
    (h : Reads .disjunction live.zipIdx tree []) :
    Program.ofTokens (Token.normalOfTerms live) = tree.code := by
  obtain ⟨index, program⟩ := h.ofTokensFrom_normal 0 [] (Program.settled_nil _) (by simp)
    (fun _ => rfl)
  rw [Token.ofPlaced_nil, Token.followed_nil] at program
  exact program.trans (List.append_nil _)

end Program

end TermTree

end SavedFilter
