import SavedFilter.Balance

/-! # Balanced parentheses

The parentheses of terms are balanced when no initial part of the terms closes more groups than it
opened, and all of them together close exactly as many. `check_eq_ok_iff` says that the check
accepts these terms and no others. -/
set_option autoImplicit false
namespace SavedFilter.Balance

def count (o : Operator) (ts : List Term) : Nat := ts.countP fun t => t.isLive && t.operator == o

/-- The terms close the groups that they open and `depth` more, and each after it was opened. -/
def BalancedFrom (depth : Nat) (ts : List Term) : Prop :=
  (∀ k, count .closing (ts.take k) ≤ depth + count .opening (ts.take k)) ∧
    depth + count .opening ts = count .closing ts

def Balanced (ts : List Term) : Prop :=
  (∀ k, count .closing (ts.take k) ≤ count .opening (ts.take k)) ∧
    count .opening ts = count .closing ts

theorem balancedFrom_zero (ts : List Term) : BalancedFrom 0 ts ↔ Balanced ts := by
  simp [BalancedFrom, Balanced]

theorem count_nil (o : Operator) : count o [] = 0 := rfl

theorem count_cons (o : Operator) (t : Term) (ts : List Term) :
    count o (t :: ts) = count o ts + count o [t] := by
  simp [count, List.countP_cons]

theorem count_singleton (o : Operator) (t : Term) :
    count o [t] = if t.isLive && t.operator == o then 1 else 0 := by
  simp [count, List.countP_cons]

theorem balancedFrom_nil (depth : Nat) : BalancedFrom depth [] ↔ depth = 0 := by
  simp [BalancedFrom, count]

/-- The first term must not close more than is open; the others start from what it leaves. -/
theorem balancedFrom_cons (depth : Nat) (t : Term) (ts : List Term) :
    BalancedFrom depth (t :: ts) ↔ count .closing [t] ≤ depth + count .opening [t] ∧
      BalancedFrom (depth + count .opening [t] - count .closing [t]) ts := by
  constructor
  · rintro ⟨within, total⟩
    have first := within 1
    simp only [List.take_succ_cons, List.take_zero] at first
    refine ⟨first, fun k => ?_, ?_⟩
    · have := within (k + 1)
      rw [List.take_succ_cons, count_cons, count_cons .opening] at this
      omega
    · rw [count_cons, count_cons .closing] at total
      omega
  · rintro ⟨first, within, total⟩
    refine ⟨fun k => ?_, ?_⟩
    · cases k with
      | zero => simp [count_nil]
      | succ k =>
        have := within k
        rw [List.take_succ_cons, count_cons, count_cons .opening]
        omega
    · rw [count_cons, count_cons .closing]
      omega

section Check

variable {t : Term} (depth position : Nat) (ts : List Term)

theorem checkFrom_deleted (h : t.isLive = false) :
    checkFrom depth position (t :: ts) = checkFrom depth (position + 1) ts := by
  have deleted : t.deleted = true := by simpa [Term.isLive] using h
  rw [checkFrom.eq_def]
  simp only [deleted, if_true]

theorem checkFrom_opening (live : t.isLive) (h : t.operator = .opening) :
    checkFrom depth position (t :: ts) = checkFrom (depth + 1) (position + 1) ts := by
  have kept : t.deleted = false := by simpa [Term.isLive] using live
  rw [checkFrom.eq_def]
  simp [kept, h]

theorem checkFrom_closing_zero (live : t.isLive) (h : t.operator = .closing) :
    checkFrom 0 position (t :: ts) = .error (.unmatchedClosing position) := by
  have kept : t.deleted = false := by simpa [Term.isLive] using live
  rw [checkFrom.eq_def]
  simp [kept, h]

theorem checkFrom_closing_succ (live : t.isLive) (h : t.operator = .closing) :
    checkFrom (depth + 1) position (t :: ts) = checkFrom depth (position + 1) ts := by
  have kept : t.deleted = false := by simpa [Term.isLive] using live
  rw [checkFrom.eq_def]
  simp [kept, h]

theorem checkFrom_other (h : t.operator ≠ .opening ∧ t.operator ≠ .closing) :
    checkFrom depth position (t :: ts) = checkFrom depth (position + 1) ts := by
  rw [checkFrom.eq_def]
  cases operator : t.operator <;> simp_all

end Check

theorem checkFrom_eq_ok_iff (depth position : Nat) (ts : List Term) :
    checkFrom depth position ts = .ok () ↔ BalancedFrom depth ts := by
  induction ts generalizing depth position with
  | nil =>
    rw [balancedFrom_nil, checkFrom]
    split <;> simp [*]
  | cons t ts ih =>
    rw [balancedFrom_cons, count_singleton, count_singleton]
    cases live : t.isLive with
    | false =>
      rw [checkFrom_deleted _ _ _ live, ih]
      simp
    | true =>
      cases operator : t.operator with
      | opening =>
        rw [checkFrom_opening _ _ _ live operator, ih]
        simp
      | closing =>
        cases depth with
        | zero =>
          rw [checkFrom_closing_zero _ _ live operator]
          simp
        | succ depth =>
          rw [checkFrom_closing_succ _ _ _ live operator, ih]
          simp
      | plain | not | and | or =>
        rw [checkFrom_other _ _ _ (by simp [operator]), ih]
        simp

theorem check_eq_ok_iff (ts : List Term) : check ts = .ok () ↔ Balanced ts := by
  rw [check, checkFrom_eq_ok_iff, balancedFrom_zero]

theorem balancedFrom_live (depth : Nat) (ts : List Term) :
    BalancedFrom depth (ts.filter Term.isLive) ↔ BalancedFrom depth ts := by
  induction ts generalizing depth with
  | nil => rfl
  | cons t ts ih =>
    cases live : t.isLive with
    | false =>
      have deleted : ¬ t.isLive := by simp [live]
      rw [List.filter_cons_of_neg deleted, ih, balancedFrom_cons, count_singleton, count_singleton]
      simp [live]
    | true => rw [List.filter_cons_of_pos live, balancedFrom_cons, balancedFrom_cons, ih]

/-- Deleted terms count for the positions in errors, not for whether there is one. -/
theorem check_live_eq_ok_iff (ts : List Term) :
    check (ts.filter Term.isLive) = .ok () ↔ check ts = .ok () := by
  rw [check, checkFrom_eq_ok_iff, balancedFrom_live, check, checkFrom_eq_ok_iff]

end SavedFilter.Balance
