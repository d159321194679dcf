import SavedFilter.Date.Basic

/-! # The order of dates

A date is before another if its year is, or in one year its month, or in one month its day. The
comparison of dates tells this order, `compare_eq_lt_iff`. -/
set_option autoImplicit false
namespace SavedFilter.Date

instance : LT Date :=
  ⟨fun a b => a.year < b.year ∨ a.year = b.year ∧
    (a.month < b.month ∨ a.month = b.month ∧ a.day < b.day)⟩

instance : LE Date := ⟨fun a b => a < b ∨ a = b⟩

instance (a b : Date) : Decidable (a < b) := inferInstanceAs (Decidable (_ ∨ _))

instance (a b : Date) : Decidable (a ≤ b) := inferInstanceAs (Decidable (a < b ∨ a = b))

variable {a b : Date}

theorem eq_iff_parts : a = b ↔ a.year = b.year ∧ a.month = b.month ∧ a.day = b.day := by
  constructor
  · rintro rfl
    exact ⟨rfl, rfl, rfl⟩
  · intro same
    cases a
    cases b
    obtain ⟨rfl, rfl, rfl⟩ := same
    rfl

theorem compare_eq_lt_iff : Date.compare a b = .lt ↔ a < b := by
  simp only [Date.compare, Ordering.then_eq_lt, Std.compare_eq_lt, Std.compare_eq_iff_eq]
  exact Iff.rfl

theorem compare_eq_eq_iff : Date.compare a b = .eq ↔ a = b := by
  simp only [Date.compare, Ordering.then_eq_eq, Std.compare_eq_iff_eq, eq_iff_parts]

theorem compare_eq_gt_iff : Date.compare a b = .gt ↔ b < a := by
  simp only [Date.compare, Ordering.then_eq_gt, Std.compare_eq_gt, Std.compare_eq_iff_eq]
  change _ ↔ b.year < a.year ∨ b.year = a.year ∧
    (b.month < a.month ∨ b.month = a.month ∧ b.day < a.day)
  omega

theorem not_lt_iff : ¬ a < b ↔ b ≤ a := by
  change ¬ (a.year < b.year ∨ a.year = b.year ∧
    (a.month < b.month ∨ a.month = b.month ∧ a.day < b.day)) ↔
    (b.year < a.year ∨ b.year = a.year ∧
      (b.month < a.month ∨ b.month = a.month ∧ b.day < a.day)) ∨ b = a
  rw [eq_iff_parts]
  omega

end SavedFilter.Date
