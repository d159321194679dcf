import Mathlib.Data.List.Chain
import SavedFilter.Proofs.Compile.Postfix

/-! # The normal form of tokens

The normal form adds tokens without a position and changes nothing else, `filter_normalAfter`. What
it adds leaves no gap on either side, `gap_cases`, so a second time nothing is added. In the normal
form of terms operands and what stands between them take turns: set between parentheses, every
token of it fits the one before, `fits_normalAfter`. -/
set_option autoImplicit false
namespace SavedFilter.Token

/-! ## Only implicit tokens are added -/

theorem filter_gap (before : Option Token) (t : Token) :
    (gap before t).filter (!·.isImplicit) = [] := by
  cases before with
  | none =>
    rw [gap]
    split <;> rfl
  | some p =>
    rw [gap]
    split
    · rfl
    · split <;> rfl

theorem filter_lastGap (before : Option Token) :
    (lastGap before).filter (!·.isImplicit) = [] := by
  cases before with
  | none => rfl
  | some p =>
    rw [lastGap]
    split <;> rfl

theorem filter_normalAfter (before : Option Token) (ts : List Token) :
    (normalAfter before ts).filter (!·.isImplicit) = ts.filter (!·.isImplicit) := by
  induction ts generalizing before with
  | nil => exact filter_lastGap before
  | cons t ts ih =>
    rw [normalAfter, List.filter_append, filter_gap, List.nil_append, List.filter_cons,
      List.filter_cons, ih]

theorem positions_ofTerms (terms : List Term) :
    (ofTerms terms).map Token.position = (List.range terms.length).map some := by
  rw [ofTerms, List.map_map]
  change terms.zipIdx.map (some ∘ Prod.snd) = _
  rw [← List.map_map, List.zipIdx_map_snd, List.range_eq_range']

theorem isImplicit_of_mem_ofTerms {terms : List Term} {t : Token} (h : t ∈ ofTerms terms) :
    t.isImplicit = false := by
  obtain ⟨placed, _, rfl⟩ := List.mem_map.mp h
  rfl

/-- The token is of the kind that the operator of the term says; a condition is the term itself. -/
def StandsFor (u : Token) (t : Term) : Prop :=
  match t.operator with
  | .plain | .not => u.kind = .atom t
  | .and => u.kind = .and
  | .or => u.kind = .or
  | .opening => u.kind = .opening
  | .closing => u.kind = .closing

theorem standsFor_ofTerm (position : Nat) (t : Term) : (ofTerm position t).StandsFor t := by
  cases operator : t.operator <;> simp [StandsFor, ofTerm, operator]

theorem standsFor_ofTerms (terms : List Term) : List.Forall₂ StandsFor (ofTerms terms) terms := by
  have numberedFrom (n : Nat) : List.Forall₂ StandsFor
      ((terms.zipIdx n).map fun placed => ofTerm placed.2 placed.1) terms := by
    induction terms generalizing n with
    | nil => exact .nil
    | cons t terms ih => exact .cons (standsFor_ofTerm n t) (ih (n + 1))
  exact numberedFrom 0

/-! ## The normal form has no gaps -/

theorem expectsOperand_of_endsOperand {t : Token} (h : t.endsOperand) :
    t.expectsOperand = false := by
  cases kind : t.kind <;> simp_all [endsOperand, expectsOperand]

theorem followsOperand_of_startsOperand {t : Token} (h : t.startsOperand) :
    t.followsOperand = false := by
  cases kind : t.kind <;> simp_all [startsOperand, followsOperand]

theorem gap_adjacent {p t : Token} (ends : p.endsOperand) (starts : t.startsOperand) :
    gap (some p) t = [implicit .and] := by
  simp [gap, ends, starts]

theorem gap_empty {p t : Token} (expects : p.expectsOperand) (follows : t.followsOperand) :
    gap (some p) t = [implicit .filler] := by
  have apart : (p.endsOperand && t.startsOperand) = false := by
    cases ends : p.endsOperand with
    | false => rfl
    | true =>
      rw [expectsOperand_of_endsOperand ends] at expects
      cases expects
  simp [gap, apart, expects, follows]

theorem gap_nil {p t : Token} (apart : ¬(p.endsOperand ∧ t.startsOperand))
    (filled : ¬(p.expectsOperand ∧ t.followsOperand)) : gap (some p) t = [] := by
  simp only [gap, Bool.and_eq_true, if_neg apart, if_neg filled]

/-- Where something is missing, one token fills the gap, and leaves none on either side of it. -/
theorem gap_cases (before : Option Token) (t : Token) :
    gap before t = [] ∨
      ∃ u, gap before t = [u] ∧ gap before u = [] ∧ gap (some u) t = [] := by
  cases before with
  | none =>
    by_cases follows : t.followsOperand
    · exact .inr ⟨implicit .filler, if_pos follows, rfl, rfl⟩
    · exact .inl (if_neg follows)
  | some p =>
    by_cases adjacent : p.endsOperand ∧ t.startsOperand
    · obtain ⟨ends, starts⟩ := adjacent
      have complete := expectsOperand_of_endsOperand ends
      have noneBefore := followsOperand_of_startsOperand starts
      refine .inr ⟨implicit .and, gap_adjacent ends starts, ?_, ?_⟩
      · exact gap_nil (by simp [implicit, startsOperand]) (by simp [complete])
      · exact gap_nil (by simp [implicit, endsOperand]) (by simp [noneBefore])
    · by_cases empty : p.expectsOperand ∧ t.followsOperand
      · obtain ⟨expects, follows⟩ := empty
        refine .inr ⟨implicit .filler, gap_empty expects follows, ?_, ?_⟩
        · exact gap_nil (by simp [implicit, startsOperand]) (by simp [implicit, followsOperand])
        · exact gap_nil (by simp [implicit, endsOperand]) (by simp [implicit, expectsOperand])
      · exact .inl (gap_nil adjacent empty)

/-- Nothing is missing between the tokens, in front of them or behind them. -/
def Gapless (before : Option Token) : List Token → Prop
  | [] => lastGap before = []
  | t :: rest => gap before t = [] ∧ Gapless (some t) rest

theorem gapless_normalAfter (before : Option Token) (ts : List Token) :
    Gapless before (normalAfter before ts) := by
  induction ts generalizing before with
  | nil =>
    rw [normalAfter]
    cases before with
    | none => exact ⟨rfl, rfl⟩
    | some p =>
      rw [lastGap]
      by_cases expects : p.expectsOperand
      · rw [if_pos expects]
        exact ⟨gap_nil (by simp [implicit, startsOperand]) (by simp [implicit, followsOperand]),
          rfl⟩
      · rw [if_neg expects]
        exact if_neg expects
  | cons t ts ih =>
    rw [normalAfter]
    obtain closed | ⟨u, filled, beforeU, behindU⟩ := gap_cases before t
    · rw [closed]
      exact ⟨closed, ih (some t)⟩
    · rw [filled]
      exact ⟨beforeU, behindU, ih (some t)⟩

theorem normalAfter_of_gapless {before : Option Token} {ts : List Token}
    (h : Gapless before ts) : normalAfter before ts = ts := by
  induction ts generalizing before with
  | nil => exact h
  | cons t ts ih =>
    obtain ⟨closed, rest⟩ := h
    rw [normalAfter, closed, ih rest, List.nil_append]

/-! ## Operands and what stands between them take turns -/

def completesOperand (t : Token) : Bool :=
  match t.kind with
  | .atom _ | .closing | .filler => true
  | .and | .or | .opening => false

def beginsOperand (t : Token) : Bool :=
  match t.kind with
  | .atom _ | .opening | .filler => true
  | .and | .or | .closing => false

def continuesOperand (t : Token) : Bool :=
  match t.kind with
  | .and | .or | .closing => true
  | .atom _ | .opening | .filler => false

def asksForOperand (t : Token) : Bool :=
  match t.kind with
  | .and | .or | .opening => true
  | .atom _ | .closing | .filler => false

/-- The second token may come right behind the first: a mark or the end of a group behind an
operand, or an operand where one is expected. -/
def Fits (p t : Token) : Prop :=
  (p.completesOperand ∧ t.continuesOperand) ∨ (p.asksForOperand ∧ t.beginsOperand)

theorem endsOperand_or_expectsOperand {t : Token} (h : t.kind ≠ .filler) :
    t.endsOperand ∨ t.expectsOperand := by
  cases kind : t.kind <;> simp_all [endsOperand, expectsOperand]

theorem startsOperand_or_followsOperand {t : Token} (h : t.kind ≠ .filler) :
    t.startsOperand ∨ t.followsOperand := by
  cases kind : t.kind <;> simp_all [startsOperand, followsOperand]

theorem completesOperand_of_endsOperand {t : Token} (h : t.endsOperand) : t.completesOperand := by
  cases kind : t.kind <;> simp_all [endsOperand, completesOperand]

theorem beginsOperand_of_startsOperand {t : Token} (h : t.startsOperand) : t.beginsOperand := by
  cases kind : t.kind <;> simp_all [startsOperand, beginsOperand]

theorem continuesOperand_of_followsOperand {t : Token} (h : t.followsOperand) :
    t.continuesOperand := by
  cases kind : t.kind <;> simp_all [followsOperand, continuesOperand]

theorem asksForOperand_of_expectsOperand {t : Token} (h : t.expectsOperand) :
    t.asksForOperand := by
  cases kind : t.kind <;> simp_all [expectsOperand, asksForOperand]

theorem not_startsOperand_of_followsOperand {t : Token} (h : t.followsOperand) :
    ¬t.startsOperand := by
  intro starts
  rw [followsOperand_of_startsOperand starts] at h
  cases h

theorem not_expectsOperand_of_endsOperand {t : Token} (h : t.endsOperand) : ¬t.expectsOperand := by
  intro expects
  rw [expectsOperand_of_endsOperand h] at expects
  cases expects

/-- Between two tokens that are no fillers the gap is filled so that each fits the one before. -/
theorem fits_gap {p t : Token} (pReal : p.kind ≠ .filler) (tReal : t.kind ≠ .filler) :
    (p :: (gap (some p) t ++ [t])).IsChain Fits := by
  obtain ends | expects := endsOperand_or_expectsOperand pReal
  · have complete := completesOperand_of_endsOperand ends
    obtain starts | follows := startsOperand_or_followsOperand tReal
    · have begins := beginsOperand_of_startsOperand starts
      rw [gap_adjacent ends starts]
      exact .cons_cons (.inl ⟨complete, rfl⟩) (.cons_cons (.inr ⟨rfl, begins⟩) (.singleton t))
    · have continues := continuesOperand_of_followsOperand follows
      rw [gap_nil (fun h => not_startsOperand_of_followsOperand follows h.2)
        (fun h => not_expectsOperand_of_endsOperand ends h.1)]
      exact .cons_cons (.inl ⟨complete, continues⟩) (.singleton t)
  · have asks := asksForOperand_of_expectsOperand expects
    obtain starts | follows := startsOperand_or_followsOperand tReal
    · have begins := beginsOperand_of_startsOperand starts
      rw [gap_nil (fun h => not_expectsOperand_of_endsOperand h.1 expects)
        (fun h => not_startsOperand_of_followsOperand h.2 starts)]
      exact .cons_cons (.inr ⟨asks, begins⟩) (.singleton t)
    · have continues := continuesOperand_of_followsOperand follows
      rw [gap_empty expects follows]
      exact .cons_cons (.inr ⟨asks, rfl⟩) (.cons_cons (.inl ⟨rfl, continues⟩) (.singleton t))

/-- At the end the normal form puts what it would put in front of the end of a group. -/
theorem lastGap_some (p : Token) : lastGap (some p) = gap (some p) (implicit .closing) := by
  simp [lastGap, gap, startsOperand, followsOperand, implicit]

theorem fits_normalAfter {p : Token} {ts : List Token} (pReal : p.kind ≠ .filler)
    (real : ∀ t ∈ ts, t.kind ≠ .filler) :
    (p :: (normalAfter (some p) ts ++ [implicit .closing])).IsChain Fits := by
  induction ts generalizing p with
  | nil =>
    rw [normalAfter, lastGap_some]
    exact fits_gap pReal (by simp [implicit])
  | cons t ts ih =>
    have tReal : t.kind ≠ .filler := real t List.mem_cons_self
    have later := ih tReal fun u member => real u (List.mem_cons_of_mem t member)
    rw [normalAfter, List.append_assoc, List.cons_append]
    exact List.isChain_cons_split.mpr ⟨fits_gap pReal tReal, later⟩

/-- The tokens begin and end with an operand, and each fits the one before it. -/
structure Alternates (ts : List Token) : Prop where
  starts : ∃ t ∈ ts.head?, t.beginsOperand
  ends : ∃ t ∈ ts.getLast?, t.completesOperand
  pairs : ts.IsChain Fits

theorem alternates_of_enclosed {ts : List Token}
    (h : (implicit .opening :: (ts ++ [implicit .closing])).IsChain Fits) : Alternates ts := by
  cases ts with
  | nil =>
    obtain ⟨complete, _⟩ | ⟨_, begins⟩ := h.rel
    · cases complete
    · cases begins
  | cons t ts =>
    have inner : ((t :: ts) ++ [implicit .closing]).IsChain Fits := h.tail
    refine ⟨⟨t, rfl, ?_⟩, ⟨_, List.getLast?_eq_some_getLast (List.cons_ne_nil t ts), ?_⟩, ?_⟩
    · obtain ⟨complete, _⟩ | ⟨_, begins⟩ := h.rel
      · cases complete
      · exact begins
    · obtain ⟨complete, _⟩ | ⟨_, begins⟩ := inner.rel_getLast_head_of_append (by simp) (by simp)
      · exact complete
      · cases begins
    · exact inner.left_of_append

theorem alternates_normalOfTerms (terms : List Term) : Alternates (normalOfTerms terms) := by
  have real : ∀ t ∈ ofTerms terms, t.kind ≠ .filler := by
    intro t member
    obtain ⟨⟨term, n⟩, _, rfl⟩ := List.mem_map.mp member
    cases operator : term.operator <;> simp [ofTerm, operator]
  have enclosed := fits_normalAfter (p := implicit .opening) (by simp [implicit]) real
  rw [normalAfter_of_expectsOperand rfl] at enclosed
  exact alternates_of_enclosed enclosed

/-- The normal form of terms is the terms in order, each as the token of its operator and with its
position, and implicit tokens where something was missing; the normal form of any normal form is
itself. -/
theorem normal_exact :
    (∀ terms : List Term,
      (normalOfTerms terms).filter (!·.isImplicit) = ofTerms terms ∧
        (ofTerms terms).map Token.position = (List.range terms.length).map some ∧
        List.Forall₂ StandsFor (ofTerms terms) terms ∧
        Alternates (normalOfTerms terms)) ∧
      ∀ ts : List Token, normal (normal ts) = normal ts := by
  constructor
  · intro terms
    refine ⟨?_, positions_ofTerms terms, standsFor_ofTerms terms, alternates_normalOfTerms terms⟩
    rw [normalOfTerms, normal, filter_normalAfter, List.filter_eq_self]
    intro t member
    rw [isImplicit_of_mem_ofTerms member]
    rfl
  · intro ts
    exact normalAfter_of_gapless (gapless_normalAfter none ts)

end SavedFilter.Token
