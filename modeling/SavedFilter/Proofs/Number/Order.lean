import Mathlib.Algebra.Order.Field.Power
import Mathlib.Algebra.Order.Ring.Rat
import Mathlib.Order.Compare
import SavedFilter.Proofs.Number.Decimal

/-! # Decimals are compared as numbers

The comparison of two decimals is that of the numbers they stand for, `Decimal.compare_compares`,
whatever their scales are. A decimal with its first digit further to the left is the larger one, so
the comparison looks at the places of the first digits before it brings the two to one scale. -/
set_option autoImplicit false
namespace SavedFilter

theorem lt_pow_length_digitsOf (n : Nat) : n < 10 ^ (digitsOf n).length := by
  have someDigit := List.length_pos_iff.mpr (digitsOf_ne_nil n)
  exact (Nat.length_toDigits_le_iff (by decide) someDigit).mp (Nat.le_refl _)

theorem pow_length_digitsOf_le {n : Nat} (pos : 0 < n) : 10 ^ ((digitsOf n).length - 1) ≤ n := by
  by_cases oneDigit : (digitsOf n).length ≤ 1
  · rw [Nat.sub_eq_zero_of_le oneDigit]
    exact pos
  · rw [← Nat.not_lt, ← Nat.length_toDigits_le_iff (by decide) (by omega)]
    change ¬ (digitsOf n).length ≤ _
    omega

/-- Keys are compared first, and values with one key by themselves. -/
theorem compares_then {α κ : Type} [LinearOrder κ] [Preorder α] {k l : κ} {x y : α} {o : Ordering}
    (less : k < l → x < y) (more : l < k → y < x) (same : k = l → o.Compares x y) :
    ((compare k l).then o).Compares x y := by
  have keys := (compare_iff k l).mp rfl
  cases compared : compare k l with
  | lt =>
    rw [compared] at keys
    exact less keys
  | eq =>
    rw [compared] at keys
    exact same keys
  | gt =>
    rw [compared] at keys
    exact more keys

namespace Decimal

/-! ## Magnitudes -/

section Magnitude

variable {m m' : Nat} {s s' : Int}

def magnitude (m : Nat) (s : Int) : ℚ := m * 10 ^ (-s)

theorem magnitude_lt (m : Nat) (s : Int) : magnitude m s < 10 ^ ((digitsOf m).length - s) := by
  have bound : (m : ℚ) < 10 ^ (digitsOf m).length := by
    exact_mod_cast lt_pow_length_digitsOf m
  rw [magnitude, sub_eq_add_neg, zpow_add₀ (by norm_num), zpow_natCast]
  exact mul_lt_mul_of_pos_right bound (by positivity)

theorem le_magnitude (pos : 0 < m) (s : Int) :
    10 ^ ((digitsOf m).length - s - 1) ≤ magnitude m s := by
  have someDigit := List.length_pos_iff.mpr (digitsOf_ne_nil m)
  have bound : (10 : ℚ) ^ ((digitsOf m).length - 1) ≤ m := by
    exact_mod_cast pow_length_digitsOf_le pos
  have exponent : ((digitsOf m).length - s - 1 : Int) = ((digitsOf m).length - 1 : Nat) + -s := by
    omega
  rw [magnitude, exponent, zpow_add₀ (by norm_num), zpow_natCast]
  exact mul_le_mul_of_nonneg_right bound (by positivity)

theorem magnitude_lt_of_lead_lt (pos : 0 < m')
    (lead : (digitsOf m).length - s < (digitsOf m').length - s') :
    magnitude m s < magnitude m' s' :=
  calc magnitude m s
    _ < 10 ^ ((digitsOf m).length - s) := magnitude_lt m s
    _ ≤ 10 ^ ((digitsOf m').length - s' - 1) := zpow_le_zpow_right₀ (by norm_num) (by omega)
    _ ≤ magnitude m' s' := le_magnitude pos s'

theorem magnitude_compares (m m' : Nat) (s : Int) :
    (Ord.compare m m').Compares (magnitude m s) (magnitude m' s) := by
  have increases : StrictMono fun n : Nat => magnitude n s := by
    intro m m' less
    exact mul_lt_mul_of_pos_right (by exact_mod_cast less) (by positivity)
  exact increases.compares.mpr ((compare_iff m m').mp rfl)

/-- The same number with more places. -/
theorem magnitude_pow (m : Nat) (more : s ≤ s') :
    magnitude (m * Nat.pow 10 (s' - s).toNat) s' = magnitude m s := by
  have exponent : -s = ((s' - s).toNat : Int) + -s' := by omega
  rw [magnitude, magnitude, exponent, zpow_add₀ (by norm_num), zpow_natCast]
  change ((m * 10 ^ (s' - s).toNat : Nat) : ℚ) * _ = _
  rw [Nat.cast_mul, Nat.cast_pow, mul_assoc]
  rfl

theorem compareMagnitude_compares (pos : 0 < m) (pos' : 0 < m') (s s' : Int) :
    (compareMagnitude m s m' s').Compares (magnitude m s) (magnitude m' s') := by
  refine compares_then (magnitude_lt_of_lead_lt pos') (magnitude_lt_of_lead_lt pos) fun _ => ?_
  split
  · rename_i more
    rw [← magnitude_pow m more]
    exact magnitude_compares _ _ s'
  · rename_i fewer
    rw [← magnitude_pow m' (Int.le_of_lt (Int.not_le.mp fewer))]
    exact magnitude_compares _ _ s

end Magnitude

/-! ## Signs -/

variable {a b d : Decimal}

theorem toRat_eq_magnitude (nonneg : 0 ≤ d.coefficient) :
    d.toRat = magnitude d.coefficient.natAbs d.scale.toInt := by
  rw [toRat, magnitude, ← Int.cast_natCast, Int.natAbs_of_nonneg nonneg]

theorem toRat_eq_neg_magnitude (nonpos : d.coefficient ≤ 0) :
    d.toRat = -magnitude d.coefficient.natAbs d.scale.toInt := by
  rw [toRat, magnitude, ← Int.cast_natCast, Int.ofNat_natAbs_of_nonpos nonpos, Int.cast_neg,
    neg_mul, neg_neg]

theorem toRat_pos_iff : 0 < d.toRat ↔ 0 < d.coefficient := by
  rw [toRat, mul_pos_iff_of_pos_right (by positivity), Int.cast_pos]

theorem toRat_nonneg_iff : 0 ≤ d.toRat ↔ 0 ≤ d.coefficient := by
  rw [toRat, mul_nonneg_iff_of_pos_right (by positivity), Int.cast_nonneg_iff]

theorem toRat_lt_of_sign_lt (less : a.coefficient.sign < b.coefficient.sign) :
    a.toRat < b.toRat := by
  obtain ⟨neg, nonneg⟩ | ⟨nonpos, pos⟩ :
      a.coefficient < 0 ∧ 0 ≤ b.coefficient ∨ a.coefficient ≤ 0 ∧ 0 < b.coefficient := by
    grind
  · calc a.toRat
      _ < 0 := by rwa [← not_le, toRat_nonneg_iff, Int.not_le]
      _ ≤ b.toRat := toRat_nonneg_iff.mpr nonneg
  · calc a.toRat
      _ ≤ 0 := by rwa [← not_lt, toRat_pos_iff, Int.not_lt]
      _ < b.toRat := toRat_pos_iff.mpr pos

theorem compare_compares (a b : Decimal) : (compare a b).Compares a.toRat b.toRat := by
  refine compares_then toRat_lt_of_sign_lt toRat_lt_of_sign_lt fun signs => ?_
  split_ifs with zero positive
  · have zero' : b.coefficient = 0 := by
      rwa [zero, Int.sign_zero, eq_comm, Int.sign_eq_zero_iff_zero] at signs
    simp [toRat, zero, zero']
  · have positive' : 0 < b.coefficient := by
      rwa [Int.sign_eq_one_of_pos positive, eq_comm, Int.sign_eq_one_iff_pos] at signs
    rw [toRat_eq_magnitude positive.le, toRat_eq_magnitude positive'.le]
    exact compareMagnitude_compares (by omega) (by omega) _ _
  · -- the larger of two negative numbers is the one of smaller magnitude
    have negative : a.coefficient < 0 := by omega
    have negative' : b.coefficient < 0 := by
      rwa [Int.sign_eq_neg_one_of_neg negative, eq_comm, Int.sign_eq_neg_one_iff_neg] at signs
    rw [toRat_eq_neg_magnitude negative.le, toRat_eq_neg_magnitude negative'.le]
    have decreases : StrictAnti fun x : ℚ => -x := strictMono_id.neg
    exact decreases.compares.mpr (compareMagnitude_compares (by omega) (by omega) _ _)

end Decimal
end SavedFilter
