import Mathlib.Data.List.Basic
import SavedFilter.Compile.Symbolic
import SavedFilter.Plan

/-! # Order numbers

Terms, columns and sort keys are listed by their order numbers, and those with one number as they
are stored. Such a listing is ascending and keeps what is stored under each number, and no two lists
have both in common, `eq_of_alikeBy`. So two listings are the same exactly when each number has the
same elements in the same sequence, `inOrder_eq_iff`, and a part of a listing is the listing of that
part: deleted terms may be left out before or after. What a filter compiles to, and what it is
planned as, depends on nothing else of how it is stored: `Filter.answers_of_alike`. -/
set_option autoImplicit false
namespace SavedFilter

/-! ## Listings -/

section Listings

variable {α : Type} (key : α → UInt32)

/-- The lists have the same elements under each number, in the same sequence. -/
def AlikeBy (xs ys : List α) : Prop :=
  ∀ number, xs.filter (key · == number) = ys.filter (key · == number)

def Ascending (xs : List α) : Prop := xs.Pairwise fun a b => key a ≤ key b

variable {key} {xs ys : List α}

theorem listed_trans (a b c : α) (ab : decide (key a ≤ key b) = true)
    (bc : decide (key b ≤ key c) = true) : decide (key a ≤ key c) = true :=
  decide_eq_true (UInt32.le_trans (of_decide_eq_true ab) (of_decide_eq_true bc))

theorem listed_total (a b : α) : (decide (key a ≤ key b) || decide (key b ≤ key a)) = true := by
  simpa using UInt32.le_total (key a) (key b)

theorem inOrder_ascending (xs : List α) : Ascending key (Filter.inOrder key xs) :=
  (List.pairwise_mergeSort listed_trans listed_total xs).imp of_decide_eq_true

theorem filter_inOrder_number (xs : List α) (number : UInt32) :
    (Filter.inOrder key xs).filter (key · == number) = xs.filter (key · == number) := by
  have tied : (xs.filter (key · == number)).Pairwise fun a b => decide (key a ≤ key b) = true := by
    refine List.pairwise_filter.mpr (List.pairwise_of_forall fun a b first second => ?_)
    rw [beq_iff_eq] at first second
    rw [first, second]
    exact decide_eq_true (UInt32.le_refl number)
  have kept : (xs.filter (key · == number)).Sublist (Filter.inOrder key xs) :=
    List.sublist_mergeSort listed_trans listed_total tied List.filter_sublist
  have among := kept.filter (key · == number)
  rw [List.filter_filter] at among
  simp only [Bool.and_self] at among
  have rearranged : (Filter.inOrder key xs).Perm xs := List.mergeSort_perm xs _
  exact (among.eq_of_length (rearranged.filter _).length_eq.symm).symm

theorem key_le_of_mem {x y : α} {ys : List α} (ascending : Ascending key (y :: ys))
    (member : x ∈ y :: ys) : key y ≤ key x := by
  obtain rfl | later := List.mem_cons.mp member
  · exact UInt32.le_refl _
  · exact (List.pairwise_cons.mp ascending).1 x later

theorem AlikeBy.mem {x : α} (alike : AlikeBy key xs ys) (member : x ∈ xs) : x ∈ ys := by
  have listed : x ∈ xs.filter (key · == key x) := List.mem_filter.mpr ⟨member, beq_self_eq_true _⟩
  rw [alike] at listed
  exact List.mem_of_mem_filter listed

theorem AlikeBy.symm (alike : AlikeBy key xs ys) : AlikeBy key ys xs := fun number =>
  (alike number).symm

/-- Only the numbers that occur need to be looked at. -/
theorem alikeBy_iff : AlikeBy key xs ys ↔ ∀ x ∈ xs ++ ys,
    xs.filter (key · == key x) = ys.filter (key · == key x) := by
  refine ⟨fun alike x _ => alike (key x), fun same number => ?_⟩
  by_cases occurs : ∃ x ∈ xs ++ ys, key x = number
  · obtain ⟨x, member, rfl⟩ := occurs
    exact same x member
  · have noneHas : ∀ x ∈ xs ++ ys, ¬(key x == number) = true := by simpa using occurs
    rw [List.forall_mem_append] at noneHas
    rw [List.filter_eq_nil_iff.mpr noneHas.1, List.filter_eq_nil_iff.mpr noneHas.2]

instance [DecidableEq α] (xs ys : List α) : Decidable (AlikeBy key xs ys) :=
  decidable_of_iff _ alikeBy_iff.symm

theorem AlikeBy.of_cons {x : α} (alike : AlikeBy key (x :: xs) (x :: ys)) : AlikeBy key xs ys := by
  intro number
  have whole := alike number
  rw [List.filter_cons, List.filter_cons] at whole
  split at whole
  · exact (List.cons.inj whole).2
  · exact whole

theorem eq_of_alikeBy (ascending : Ascending key xs) (ascending' : Ascending key ys)
    (alike : AlikeBy key xs ys) : xs = ys := by
  induction xs generalizing ys with
  | nil =>
    refine (List.eq_nil_iff_forall_not_mem.mpr fun y member => ?_).symm
    exact absurd (alike.symm.mem member) List.not_mem_nil
  | cons x xs ih =>
    cases ys with
    | nil => exact absurd (alike.mem List.mem_cons_self) List.not_mem_nil
    | cons y ys =>
      have below : key y ≤ key x := key_le_of_mem ascending' (alike.mem List.mem_cons_self)
      have above : key x ≤ key y := key_le_of_mem ascending (alike.symm.mem List.mem_cons_self)
      have tie : key x = key y := UInt32.le_antisymm above below
      have front := alike (key y)
      rw [List.filter_cons_of_pos (by simp [tie]), List.filter_cons_of_pos (by simp)] at front
      obtain ⟨rfl, _⟩ := List.cons.inj front
      rw [ih (List.pairwise_cons.mp ascending).2 (List.pairwise_cons.mp ascending').2 alike.of_cons]

theorem inOrder_eq_iff : Filter.inOrder key xs = Filter.inOrder key ys ↔ AlikeBy key xs ys := by
  constructor
  · intro same number
    rw [← filter_inOrder_number xs, same, filter_inOrder_number]
  · intro alike
    refine eq_of_alikeBy (inOrder_ascending xs) (inOrder_ascending ys) fun number => ?_
    rw [filter_inOrder_number, filter_inOrder_number, alike]

theorem filter_inOrder (p : α → Bool) (xs : List α) :
    (Filter.inOrder key xs).filter p = Filter.inOrder key (xs.filter p) := by
  refine eq_of_alikeBy ((inOrder_ascending xs).filter p) (inOrder_ascending _) fun number => ?_
  rw [filter_inOrder_number, List.filter_comm, filter_inOrder_number, List.filter_comm]

end Listings

/-! ## Filters -/

/-- The filters are for one model, under one name, and have the same terms but the deleted, the same
columns and the same sort keys under each order number, in the same sequence. -/
structure Filter.Alike (f g : Filter) : Prop where
  name : f.name = g.name
  model : f.model = g.model
  terms : AlikeBy Term.order (f.terms.filter (!·.deleted)) (g.terms.filter (!·.deleted))
  columns : AlikeBy Column.order f.columns g.columns
  sortKeys : AlikeBy SortKey.order f.sortKeys g.sortKeys

namespace Filter

variable {f g : Filter}

theorem liveTerms_eq (f : Filter) :
    f.liveTerms = inOrder Term.order (f.terms.filter (!·.deleted)) :=
  filter_inOrder Term.isLive f.terms

theorem Alike.liveTerms (alike : f.Alike g) : f.liveTerms = g.liveTerms := by
  rw [liveTerms_eq, liveTerms_eq, inOrder_eq_iff]
  exact alike.terms

theorem Alike.orderedColumns (alike : f.Alike g) : f.orderedColumns = g.orderedColumns :=
  inOrder_eq_iff.mpr alike.columns

theorem Alike.orderedSortKeys (alike : f.Alike g) : f.orderedSortKeys = g.orderedSortKeys :=
  inOrder_eq_iff.mpr alike.sortKeys

theorem Alike.compiled {m : Type → Type} [Monad m] {π : Type} (alike : f.Alike g)
    (b : Builder m π) : b.filter f = b.filter g := by
  rw [Builder.filter, Builder.filter, alike.liveTerms]

/-- What a filter compiles to, and what it is planned as or refused for, depends on how it is stored
only by the sequences of what has one order number. Deleted terms may be anywhere. -/
theorem answers_of_alike (alike : f.Alike g) :
    (∀ {m : Type → Type} [Monad m] {π : Type} (b : Builder m π), b.filter f = b.filter g) ∧
      ∀ r : Registry, Plan.build r f = Plan.build r g := by
  refine ⟨alike.compiled, fun r => ?_⟩
  have sameCondition (s : Schema) : f.condition (some s) = g.condition (some s) :=
    alike.compiled (conditionBuilder (some s))
  simp only [Plan.build, alike.name, alike.model, sameCondition, alike.orderedColumns,
    alike.orderedSortKeys]

/-- `status is paid OR customer is Ada`, with a deleted parenthesis under the number of the mark. -/
def paidOrAda : Filter where
  model := "shop.Order"
  terms := [
    { Term.atomic "status" .equals (some "paid") with order := 1 },
    ((Term.control .closing).withOrder 1).markDeleted,
    (Term.control .or).withOrder 1,
    { Term.atomic "customer__name" .equals (some "Ada") with order := 2 }]
  columns := [⟨"id", 1⟩, ⟨"status", 1⟩, ⟨"total", 2⟩]
  sortKeys := [⟨"-total", 0⟩, ⟨"id", 0⟩]

/-- The same, stored with the last number first and the deleted parenthesis at the end. -/
def paidOrAdaMoved : Filter where
  model := "shop.Order"
  terms := [
    { Term.atomic "customer__name" .equals (some "Ada") with order := 2 },
    { Term.atomic "status" .equals (some "paid") with order := 1 },
    (Term.control .or).withOrder 1,
    ((Term.control .closing).withOrder 1).markDeleted]
  columns := [⟨"total", 2⟩, ⟨"id", 1⟩, ⟨"status", 1⟩]
  sortKeys := [⟨"-total", 0⟩, ⟨"id", 0⟩]

theorem paidOrAda_alike : paidOrAda.Alike paidOrAdaMoved where
  name := rfl
  model := rfl
  terms := by decide
  columns := by decide
  sortKeys := fun _ => rfl

theorem answers_of_alike_moved :
    paidOrAda.Alike paidOrAdaMoved ∧ paidOrAda.terms ≠ paidOrAdaMoved.terms ∧
      symbolicBuilder.filter paidOrAda = symbolicBuilder.filter paidOrAdaMoved ∧
      ∀ r : Registry, Plan.build r paidOrAda = Plan.build r paidOrAdaMoved := by
  obtain ⟨compiled, planned⟩ := answers_of_alike paidOrAda_alike
  exact ⟨paidOrAda_alike, by decide, compiled symbolicBuilder, planned⟩

end Filter

end SavedFilter
