import Mathlib.Data.String.Basic
import Mathlib.Data.Sum.Order
import SavedFilter.Proofs.Calendar
import SavedFilter.Proofs.Number.Order
import SavedFilter.Value

/-! # The order of values

A value has a place among the numbers, the texts, the truth values or the dates, `Value.place`.
Whole and decimal numbers have their places in one order, which is that of the rationals; the four
orders stand beside each other, and nothing of one compares with anything of another. Values compare
as their places do, `Value.compare_eq_some_iff`, so their comparison is a partial order, and values
are equal when they have one place, `Value.compare_partialOrder`. -/
set_option autoImplicit false
namespace SavedFilter

namespace Date

theorem le_trans_parts {a b c : Date} (first : a ≤ b) (second : b ≤ c) : a ≤ c := by
  rw [← not_lt_iff] at first second ⊢
  change ¬ (_ ∨ _ ∧ (_ ∨ _ ∧ _)) at first second ⊢
  omega

instance : PartialOrder Date where
  le_refl _ := .inr rfl
  le_trans _ _ _ := le_trans_parts
  lt_iff_le_not_ge a b := by
    rw [← not_lt_iff (a := a), not_not]
    exact ⟨fun less => ⟨.inl less, less⟩, And.right⟩
  le_antisymm a b first second := first.resolve_left (not_lt_iff.mpr second)

theorem compare_iff (a b : Date) (o : Ordering) : Date.compare a b = o ↔ o.Compares a b := by
  cases o with
  | lt => exact compare_eq_lt_iff
  | eq => exact compare_eq_eq_iff
  | gt => exact compare_eq_gt_iff

end Date

theorem Decimal.compare_iff (a b : Decimal) (o : Ordering) :
    Decimal.compare a b = o ↔ o.Compares a.toRat b.toRat := by
  constructor
  · rintro rfl
    exact compare_compares a b
  · exact (compare_compares a b).inj

theorem Decimal.toRat_ofInt (n : Int) : (ofInt n).toRat = n := by
  simp [ofInt, toRat]

/-- 64-bit numbers are in the order of the numbers they stand for. -/
theorem compare_int64_iff (a b : Int64) (o : Ordering) :
    Ord.compare a b = o ↔ o.Compares (a.toInt : ℚ) (b.toInt : ℚ) := by
  cases o with
  | lt =>
    rw [Std.compare_eq_lt, Int64.lt_iff_toInt_lt]
    exact Int.cast_lt.symm
  | eq =>
    rw [Std.compare_eq_iff_eq, ← Int64.toInt_inj]
    exact Rat.intCast_inj.symm
  | gt =>
    rw [Std.compare_eq_gt, Int64.lt_iff_toInt_lt]
    exact Int.cast_lt.symm

section Sum

variable {α β : Type} [LT α] [LT β] {o : Ordering}

theorem compares_inl {x y : α} :
    o.Compares (.inl x : α ⊕ β) (.inl y) ↔ o.Compares x y := by
  cases o <;> simp [Ordering.Compares]

theorem compares_inr {x y : β} :
    o.Compares (.inr x : α ⊕ β) (.inr y) ↔ o.Compares x y := by
  cases o <;> simp [Ordering.Compares]

end Sum

namespace Value

inductive Kind where
  | number
  | text
  | truth
  | date
deriving DecidableEq

def kind : Value → Kind
  | integer _ | decimal _ => .number
  | string _ => .text
  | boolean _ => .truth
  | date _ => .date

/-- Where a value stands among those of its kind; the kinds stand apart. -/
def place : Value → ℚ ⊕ String ⊕ Bool ⊕ Date
  | integer n => .inl n.toInt
  | decimal d => .inl d.toRat
  | string s => .inr (.inl s)
  | boolean b => .inr (.inr (.inl b))
  | date d => .inr (.inr (.inr d))

def AtMost (a b : Value) : Prop := a.compare b = some .lt ∨ a.compare b = some .eq

/-! ## Places -/

theorem comparable_iff (a b : Value) : (a.compare b).isSome ↔ a.kind = b.kind := by
  cases a <;> cases b <;> simp [compare, number?, kind]

theorem kind_eq_of_compares {a b : Value} {o : Ordering} (compares : o.Compares a.place b.place) :
    a.kind = b.kind := by
  cases o <;> cases a <;> cases b <;> simp_all [Ordering.Compares, place, kind]

theorem compare_eq_some_iff (a b : Value) (o : Ordering) :
    a.compare b = some o ↔ o.Compares a.place b.place := by
  have apart (different : a.kind ≠ b.kind) : a.compare b = some o ↔ o.Compares a.place b.place := by
    refine iff_of_false (fun compared => ?_) fun compares =>
      different (kind_eq_of_compares compares)
    exact different ((comparable_iff a b).mp (Option.isSome_of_eq_some compared))
  cases a with
  | integer n =>
    cases b with
    | integer m => exact Option.some_inj.trans ((compare_int64_iff n m o).trans compares_inl.symm)
    | decimal e =>
      rw [place, place, compares_inl, ← Decimal.toRat_ofInt, ← Decimal.compare_iff]
      exact Option.some_inj
    | string _ | boolean _ | date _ => exact apart nofun
  | decimal d =>
    cases b with
    | integer m =>
      rw [place, place, compares_inl, ← Decimal.toRat_ofInt, ← Decimal.compare_iff]
      exact Option.some_inj
    | decimal e => exact Option.some_inj.trans ((Decimal.compare_iff d e o).trans compares_inl.symm)
    | string _ | boolean _ | date _ => exact apart nofun
  | string s =>
    cases b with
    | string t =>
      rw [place, place, compares_inr, compares_inl, ← compare_iff]
      exact Option.some_inj
    | integer _ | decimal _ | boolean _ | date _ => exact apart nofun
  | boolean p =>
    cases b with
    | boolean q =>
      rw [place, place, compares_inr, compares_inr, compares_inl, ← compare_iff]
      exact Option.some_inj
    | integer _ | decimal _ | string _ | date _ => exact apart nofun
  | date d =>
    cases b with
    | date e =>
      rw [place, place, compares_inr, compares_inr, compares_inr, ← Date.compare_iff]
      exact Option.some_inj
    | integer _ | decimal _ | string _ | boolean _ => exact apart nofun

/-! ## The order -/

theorem compare_swap (a b : Value) : b.compare a = (a.compare b).map Ordering.swap := by
  ext o
  rw [Option.map_eq_some_iff, compare_eq_some_iff]
  constructor
  · intro compares
    exact ⟨o.swap, (compare_eq_some_iff a b _).mpr (Ordering.compares_swap.mpr compares),
      Ordering.swap_swap⟩
  · rintro ⟨o, compared, rfl⟩
    exact Ordering.compares_swap.mpr ((compare_eq_some_iff a b o).mp compared)

theorem atMost_iff (a b : Value) : a.AtMost b ↔ a.place ≤ b.place := by
  rw [AtMost, compare_eq_some_iff, compare_eq_some_iff, le_iff_lt_or_eq]
  rfl

theorem equal_iff (a b : Value) : a.equal b ↔ a.place = b.place := by
  rw [equal, beq_iff_eq, compare_eq_some_iff]
  rfl

/-- Values compare when both are numbers or both are of one kind, in either order with the reverse
outcome, and a value with itself. What is at most another value is at most all that the other one is
at most, and compares with it. Values that are equal are so in either order and along any chain. -/
theorem compare_partialOrder (a b c : Value) :
    b.compare a = (a.compare b).map Ordering.swap ∧ a.compare a = some .eq ∧
      (a.AtMost b → b.AtMost c → a.AtMost c ∧ (a.compare c).isSome) ∧
      ((a.compare b).isSome ↔ a.kind = b.kind) ∧
      Equivalence fun a b : Value => a.equal b = true := by
  refine ⟨compare_swap a b, (compare_eq_some_iff a a .eq).mpr rfl, ?_, comparable_iff a b, ?_⟩
  · intro first second
    rw [atMost_iff] at first second
    have both : a.AtMost c := (atMost_iff a c).mpr (first.trans second)
    exact ⟨both, both.elim Option.isSome_of_eq_some Option.isSome_of_eq_some⟩
  · simp only [equal_iff]
    exact eq_equivalence.comap place

/-- A chain through both kinds of numbers: 12, 12.50 and 13. -/
theorem compare_partialOrder_mixed :
    (integer 12).AtMost (decimal ⟨1250, 2⟩) ∧ (decimal ⟨1250, 2⟩).AtMost (integer 13) ∧
      (integer 12).AtMost (integer 13) ∧ ((integer 12).compare (integer 13)).isSome ∧
      (integer 12).equal (decimal ⟨1200, 2⟩) := by
  have first : (integer 12).AtMost (decimal ⟨1250, 2⟩) := .inl (by decide)
  have second : (decimal ⟨1250, 2⟩).AtMost (integer 13) := .inl (by decide)
  obtain ⟨_, _, chain, _, equality⟩ :=
    compare_partialOrder (integer 12) (decimal ⟨1250, 2⟩) (integer 13)
  have both := chain first second
  exact ⟨first, second, both.1, both.2, equality.symm (by decide)⟩

end Value
end SavedFilter
