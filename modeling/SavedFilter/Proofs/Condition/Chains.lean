import Mathlib.Logic.Relation
import SavedFilter.Proofs.Condition.Truth

/-! # Chains of conjunctions and of disjunctions

In a chain of conjunctions, or of disjunctions, another grouping makes no difference to the records
of which a condition holds. A step to the left regroups `a AND (b AND c)` as `(a AND b) AND c`, or
the same with `OR`, anywhere in a condition, `Regroups`. Whatever steps are taken, as far as
possible they lead to one condition, `leftNested`: of all that a condition can be regrouped to it is
the only one in which no conjunction stands to the right in a conjunction and no disjunction in a
disjunction, `eq_leftNested_iff`. -/
set_option autoImplicit false
namespace SavedFilter.Condition

/-! ## Joined conditions -/

def join (k : Connective) (left right : Condition) : Condition :=
  match k with
  | .and => .and left right
  | .or => .or left right

def connective? : Condition → Option Connective
  | and _ _ => some .and
  | or _ _ => some .or
  | _ => none

/-- Both connectives in one case. -/
@[elab_as_elim]
theorem induction_join {motive : Condition → Prop} (always : motive always)
    (compare : ∀ field lookup operand, motive (compare field lookup operand))
    (not : ∀ c, motive c → motive (not c))
    (join : ∀ k left right, motive left → motive right → motive (join k left right))
    (c : Condition) : motive c := by
  induction c with
  | always => exact always
  | compare field lookup operand => exact compare field lookup operand
  | not c ih => exact not c ih
  | and left right ihLeft ihRight => exact join .and left right ihLeft ihRight
  | or left right ihLeft ihRight => exact join .or left right ihLeft ihRight

section Join

variable (k : Connective) (left right : Condition)

theorem connective?_join : (join k left right).connective? = some k := by
  cases k <;> rfl

theorem holds_join (record : Json) : (join k left right).holds record =
    k.truth (left.holds record) (right.holds record) := by
  cases k <;> rfl

end Join

/-! ## Steps to the left -/

/-- One chain somewhere in the condition is regrouped by one step to the left. -/
inductive Regroups : Condition → Condition → Prop where
  | here (k : Connective) (a b c : Condition) :
      Regroups (join k a (join k b c)) (join k (join k a b) c)
  | inNot {c d : Condition} (inner : Regroups c d) : Regroups (not c) (not d)
  | inLeft (k : Connective) {c d : Condition} (right : Condition) (inner : Regroups c d) :
      Regroups (join k c right) (join k d right)
  | inRight (k : Connective) (left : Condition) {c d : Condition} (inner : Regroups c d) :
      Regroups (join k left c) (join k left d)

theorem Regroups.holds {c d : Condition} (h : Regroups c d) (record : Json) :
    d.holds record = c.holds record := by
  induction h with
  | here k a b c =>
    simp only [holds_join]
    cases k with
    | and => exact Bool.and_assoc ..
    | or => exact Bool.or_assoc ..
  | inNot _ ih => rw [Condition.holds, Condition.holds, ih]
  | inLeft _ _ _ ih => rw [holds_join, holds_join, ih]
  | inRight _ _ _ ih => rw [holds_join, holds_join, ih]

abbrev RegroupsTo : Condition → Condition → Prop := Relation.ReflTransGen Regroups

theorem RegroupsTo.holds {c d : Condition} (h : RegroupsTo c d) (record : Json) :
    d.holds record = c.holds record := by
  induction h with
  | refl => rfl
  | tail _ step ih => rw [step.holds, ih]

theorem RegroupsTo.inNot {c d : Condition} (h : RegroupsTo c d) : RegroupsTo (not c) (not d) :=
  Relation.ReflTransGen.lift not (fun _ _ => Regroups.inNot) _ _ h

theorem RegroupsTo.join (k : Connective) {a b c d : Condition} (left : RegroupsTo a b)
    (right : RegroupsTo c d) : RegroupsTo (join k a c) (join k b d) :=
  .trans (Relation.ReflTransGen.lift (Condition.join k · c) (fun _ _ => .inLeft k c) _ _ left)
    (Relation.ReflTransGen.lift (Condition.join k b) (fun _ _ => .inRight k b) _ _ right)

/-! ## The condition nested to the left -/

/-- A chain with another condition in front of its first operand. -/
def chained (k : Connective) (front : Condition) : Condition → Condition
  | and left right =>
    match k with
    | .and => and (chained k front left) right
    | .or => or front (and left right)
  | or left right =>
    match k with
    | .and => and front (or left right)
    | .or => or (chained k front left) right
  | c => join k front c

def leftNested : Condition → Condition
  | always => always
  | compare field lookup operand => compare field lookup operand
  | not c => not c.leftNested
  | and left right => chained .and left.leftNested right.leftNested
  | or left right => chained .or left.leftNested right.leftNested

/-- No conjunction stands to the right in a conjunction, and no disjunction in a disjunction. -/
def LeftNested : Condition → Prop
  | always => True
  | compare _ _ _ => True
  | not c => c.LeftNested
  | and left right => left.LeftNested ∧ right.LeftNested ∧ right.connective? ≠ some .and
  | or left right => left.LeftNested ∧ right.LeftNested ∧ right.connective? ≠ some .or

section Join

variable (k : Connective) (left right : Condition)

theorem leftNested_join :
    (join k left right).leftNested = chained k left.leftNested right.leftNested := by
  cases k <;> rfl

theorem leftNested_join_iff : (join k left right).LeftNested ↔
    left.LeftNested ∧ right.LeftNested ∧ right.connective? ≠ some k := by
  cases k <;> rfl

theorem chained_join (front : Condition) :
    chained k front (join k left right) = join k (chained k front left) right := by
  cases k <;> rfl

end Join

section Chained

variable {k : Connective} {front c : Condition}

theorem chained_other (other : c.connective? ≠ some k) : chained k front c = join k front c := by
  cases c with
  | always | compare _ _ _ | not _ => rfl
  | and _ _ =>
    cases k with
    | and => exact absurd rfl other
    | or => rfl
  | or _ _ =>
    cases k with
    | and => rfl
    | or => exact absurd rfl other

/-- Induction along a chain, from its first operand on. -/
@[elab_as_elim]
theorem induction_chain (k : Connective) {motive : Condition → Prop}
    (other : ∀ c, c.connective? ≠ some k → motive c)
    (join : ∀ left right, motive left → motive (join k left right)) (c : Condition) :
    motive c := by
  induction c using induction_join with
  | always | compare _ _ _ | not _ _ => exact other _ (by simp [connective?])
  | join k' left right ihLeft _ =>
    by_cases same : k' = k
    · rw [same]
      exact join left right ihLeft
    · exact other _ (by simpa [connective?_join] using same)

theorem connective?_chained : (chained k front c).connective? = some k := by
  induction c using induction_chain k with
  | other c other => rw [chained_other other, connective?_join]
  | join left right _ => rw [chained_join, connective?_join]

theorem chained_chained (first : Condition) :
    chained k first (chained k front c) = chained k (chained k first front) c := by
  induction c using induction_chain k with
  | other c other => rw [chained_other other, chained_other other, chained_join]
  | join left right ih => rw [chained_join, chained_join, chained_join, ih]

theorem regroupsTo_chained : RegroupsTo (join k front c) (chained k front c) := by
  induction c using induction_chain k with
  | other c other => rw [chained_other other]
  | join left right ih =>
    rw [chained_join]
    exact .head (.here k front left right) (ih.join k .refl)

theorem LeftNested.chained (first : front.LeftNested) (others : c.LeftNested) :
    (chained k front c).LeftNested := by
  induction c using induction_chain k with
  | other c other =>
    rw [chained_other other, leftNested_join_iff]
    exact ⟨first, others, other⟩
  | join left right ih =>
    obtain ⟨nestedLeft, nestedRight, noChain⟩ := (leftNested_join_iff k left right).mp others
    rw [chained_join, leftNested_join_iff]
    exact ⟨ih nestedLeft, nestedRight, noChain⟩

end Chained

/-! ## What conditions can be regrouped to -/

theorem leftNested_leftNested (c : Condition) : c.leftNested.LeftNested := by
  induction c using induction_join with
  | always | compare _ _ _ => trivial
  | not c ih => exact ih
  | join k left right ihLeft ihRight =>
    rw [leftNested_join]
    exact ihLeft.chained ihRight

theorem regroupsTo_leftNested (c : Condition) : RegroupsTo c c.leftNested := by
  induction c using induction_join with
  | always | compare _ _ _ => exact .refl
  | not c ih => exact ih.inNot
  | join k left right ihLeft ihRight =>
    rw [leftNested_join]
    exact (ihLeft.join k ihRight).trans regroupsTo_chained

theorem LeftNested.leftNested_eq {c : Condition} (h : c.LeftNested) : c.leftNested = c := by
  induction c using induction_join with
  | always | compare _ _ _ => rfl
  | not c ih => rw [leftNested, ih h]
  | join k left right ihLeft ihRight =>
    obtain ⟨nestedLeft, nestedRight, noChain⟩ := (leftNested_join_iff k left right).mp h
    rw [leftNested_join, ihLeft nestedLeft, ihRight nestedRight, chained_other noChain]

theorem Regroups.leftNested_eq {c d : Condition} (h : Regroups c d) :
    c.leftNested = d.leftNested := by
  induction h with
  | here k a b c => simp only [leftNested_join, chained_chained]
  | inNot _ ih => rw [leftNested, leftNested, ih]
  | inLeft _ _ _ ih => rw [leftNested_join, leftNested_join, ih]
  | inRight _ _ _ ih => rw [leftNested_join, leftNested_join, ih]

theorem RegroupsTo.leftNested_eq {c d : Condition} (h : RegroupsTo c d) :
    c.leftNested = d.leftNested := by
  induction h with
  | refl => rfl
  | tail _ step ih => rw [ih, step.leftNested_eq]

theorem eq_leftNested_iff (c d : Condition) :
    d = c.leftNested ↔ RegroupsTo c d ∧ d.LeftNested := by
  constructor
  · rintro rfl
    exact ⟨c.regroupsTo_leftNested, c.leftNested_leftNested⟩
  · rintro ⟨regrouped, nested⟩
    rw [regrouped.leftNested_eq, nested.leftNested_eq]

theorem holds_leftNested (c : Condition) (record : Json) :
    c.leftNested.holds record = c.holds record :=
  c.regroupsTo_leftNested.holds record

end SavedFilter.Condition
