import Mathlib.Data.List.Basic

/-! # Items in the order in which they are first seen

A list that takes every item once, when it is first seen, is determined by what it was taken from:
it has the same items, and one stands in front of another if its first place there does. This is
kept by each item that is seen, `FirstSeen.see`, and so by all of them. -/
set_option autoImplicit false
namespace SavedFilter

variable {α : Type} [DecidableEq α] {kept items : List α}

/-- What was kept of the items: each of them, in the order of their first places. -/
structure FirstSeen (kept items : List α) : Prop where
  mem_iff : ∀ x, x ∈ kept ↔ x ∈ items
  ordered : kept.Pairwise fun x y => items.idxOf x < items.idxOf y

namespace FirstSeen

theorem nil : FirstSeen ([] : List α) [] := ⟨fun _ => Iff.rfl, .nil⟩

theorem nodup (seen : FirstSeen kept items) : kept.Nodup :=
  seen.ordered.imp fun before same => absurd (same ▸ before) (Nat.lt_irrefl _)

/-- Places that are taken stay where they are behind more items. -/
theorem ordered_append (seen : FirstSeen kept items) (more : List α) :
    kept.Pairwise fun x y => (items ++ more).idxOf x < (items ++ more).idxOf y := by
  refine seen.ordered.imp_of_mem fun {x y} xKept yKept before => ?_
  rwa [List.idxOf_append_of_mem ((seen.mem_iff x).mp xKept),
    List.idxOf_append_of_mem ((seen.mem_iff y).mp yKept)]

theorem see (seen : FirstSeen kept items) (x : α) :
    FirstSeen (if x ∈ kept then kept else kept ++ [x]) (items ++ [x]) := by
  by_cases known : x ∈ kept
  · rw [if_pos known]
    refine ⟨fun y => ?_, seen.ordered_append [x]⟩
    rw [List.mem_append, List.mem_singleton, ← seen.mem_iff]
    constructor
    · exact Or.inl
    · rintro (member | rfl)
      · exact member
      · exact known
  · have new : x ∉ items := (not_congr (seen.mem_iff x)).mp known
    rw [if_neg known]
    refine ⟨fun y => by simp [seen.mem_iff], List.pairwise_append.mpr ⟨?_, ?_, ?_⟩⟩
    · exact seen.ordered_append [x]
    · exact List.pairwise_singleton _ x
    · intro y yKept z zNew
      obtain rfl := List.mem_singleton.mp zNew
      have yItem := (seen.mem_iff y).mp yKept
      rw [List.idxOf_append_of_mem yItem, List.idxOf_append_of_notMem new]
      exact Nat.lt_add_right _ (List.idxOf_lt_length_of_mem yItem)

theorem see_all (seen : FirstSeen kept items) (more : List α) :
    FirstSeen (more.foldl (fun kept x => if x ∈ kept then kept else kept ++ [x]) kept)
      (items ++ more) := by
  induction more generalizing kept items with
  | nil => rwa [List.append_nil]
  | cons x more ih =>
    rw [List.foldl_cons, List.append_cons items x more]
    exact ih (seen.see x)

end FirstSeen

end SavedFilter
