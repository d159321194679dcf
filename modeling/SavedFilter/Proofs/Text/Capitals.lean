import SavedFilter.Proofs.Text.Case
import SavedFilter.Proofs.Text.CaseTable

/-! # Capitals and lower case

A text is lowered to the same text whether or not it was capitalized before, unless its first
character does not return from its capital, as the `ß` that becomes `SS`, or a capital sigma behind
the first character ends a word: capitalizing lowers it as any other sigma, lowering as the final
one. Both are told exactly, for a text behind another one, by `lower_capitalize_iff`. -/
set_option autoImplicit false
namespace SavedFilter.Text

variable {cs : List Char} {c : Char}

/-! ## Lower case out of context -/

theorem lowerAt_alone (c : Char) : lowerAt [] c [] = lowerChar c := by
  by_cases sigma : c = 'Σ'
  · rw [sigma]
    decide
  · rw [lowerAt, if_neg sigma]

theorem lowerAt_eq_lowerChar_iff (before after : List Char) (c : Char) :
    lowerAt before c after = lowerChar c ↔ (c = 'Σ' → endsWord before after = false) := by
  rw [← lowerAt_alone, lowerAt_eq_iff]
  exact Iff.rfl

theorem lowerAt_of_ne (other : c ≠ 'Σ') (before after : List Char) :
    lowerAt before c after = lowerChar c :=
  (lowerAt_eq_lowerChar_iff before after c).mpr fun sigma => absurd sigma other

theorem lowerBetween_of_notMem (noSigma : 'Σ' ∉ cs) (before after : List Char) :
    lowerBetween before after cs = cs.flatMap lowerChar :=
  ((lowerBetween_eq_lower_iff ..).mpr (sigmasAgree_of_notMem noSigma)).trans
    (lower_of_notMem noSigma)

/-- No capital sigma of the text, which stands behind another one, ends a word. -/
def NoFinalSigma (before cs : List Char) : Prop :=
  ∀ front back, cs = front ++ 'Σ' :: back → endsWord (front.reverse ++ before) back = false

theorem noFinalSigma_of_notMem (noSigma : 'Σ' ∉ cs) (before : List Char) :
    NoFinalSigma before cs := by
  rintro front back rfl
  exact absurd (List.mem_append_right front (List.mem_cons_self ..)) noSigma

theorem length_lowerAt_eq (before after : List Char) (c : Char) :
    (lowerAt before c after).length = (lowerChar c).length := by
  rw [← lowerAt_alone]
  exact length_lowerAt ..

theorem length_lowerAfter (before cs : List Char) :
    (lowerAfter before cs).length = (cs.flatMap lowerChar).length := by
  induction cs generalizing before with
  | nil => rfl
  | cons c cs ih =>
    rw [lowerAfter_cons, List.length_append, length_lowerAt_eq, ih, List.flatMap_cons,
      List.length_append]

theorem lowerAfter_eq_flatMap_iff (before cs : List Char) :
    lowerAfter before cs = cs.flatMap lowerChar ↔ NoFinalSigma before cs := by
  induction cs generalizing before with
  | nil => simp [NoFinalSigma, lowerAfter]
  | cons c cs ih =>
    have parts : lowerAfter before (c :: cs) = (c :: cs).flatMap lowerChar ↔
        lowerAt before c cs = lowerChar c ∧ lowerAfter (c :: before) cs = cs.flatMap lowerChar := by
      rw [lowerAfter_cons, List.flatMap_cons]
      constructor
      · exact fun same => List.append_inj same (length_lowerAt_eq before cs c)
      · rintro ⟨first, others⟩
        rw [first, others]
    rw [parts, lowerAt_eq_lowerChar_iff, ih]
    constructor
    · rintro ⟨first, others⟩ front back split
      cases front with
      | nil =>
        obtain ⟨rfl, rfl⟩ := List.cons.inj split
        exact first rfl
      | cons f front =>
        obtain ⟨rfl, rfl⟩ := List.cons.inj split
        simpa using others front back rfl
    · intro everywhere
      constructor
      · rintro rfl
        exact everywhere [] cs rfl
      · rintro front back rfl
        simpa using everywhere (c :: front) back rfl

/-! ## Lowered texts -/

theorem sigma_notMem_lowered (cs : List Char) : 'Σ' ∉ cs.flatMap lowerChar := by
  intro member
  obtain ⟨c, _, lowered⟩ := List.mem_flatMap.mp member
  have fixed := lowerChar_lowered lowered
  exact absurd fixed (by decide)

theorem flatMap_lowerChar_of_fixed (fixed : ∀ c ∈ cs, lowerChar c = [c]) :
    cs.flatMap lowerChar = cs := by
  induction cs with
  | nil => rfl
  | cons c cs ih =>
    obtain ⟨first, others⟩ := List.forall_mem_cons.mp fixed
    rw [List.flatMap_cons, first, ih others, List.singleton_append]

theorem flatMap_lowerChar_lowered (cs : List Char) :
    (cs.flatMap lowerChar).flatMap lowerChar = cs.flatMap lowerChar := by
  refine flatMap_lowerChar_of_fixed fun d lowered => ?_
  obtain ⟨c, _, image⟩ := List.mem_flatMap.mp lowered
  exact lowerChar_lowered image

theorem lowerAfter_lowered (before cs : List Char) :
    lowerAfter before (cs.flatMap lowerChar) = cs.flatMap lowerChar := by
  rw [lowerAfter_eq_lowerBetween, lowerBetween_of_notMem (sigma_notMem_lowered cs),
    flatMap_lowerChar_lowered]

theorem meetsCased_lowered (cs : List Char) :
    meetsCased (cs.flatMap lowerChar) = meetsCased cs := by
  induction cs with
  | nil => rfl
  | cons c cs ih =>
    rw [List.flatMap_cons, meetsCased_lowerChar, meetsCased_cons, ih, ← meetsCased_cons]

theorem endsWord_lowered (before cs : List Char) :
    endsWord before (cs.flatMap lowerChar) = endsWord before cs := by
  rw [endsWord, meetsCased_lowered, endsWord]

/-! ## The first character -/

/-- The lower case of the capital of a character is that of the character where it stands. A sigma
returns as the final one where a capital sigma ends a word, and as the other one elsewhere. -/
def Returns (before : List Char) (c : Char) (after : List Char) : Prop :=
  (c = 'σ' → endsWord before after = false) ∧ (c = 'ς' → endsWord before after = true) ∧
    (c ≠ 'ς' → (upperChar c).flatMap lowerChar = lowerChar c)

theorem returns_of_ascii (ascii : c.toNat < 0x80) (before after : List Char) :
    Returns before c after := by
  refine ⟨?_, ?_, fun _ => lowerChar_upperChar_of_ascii ascii⟩
  · rintro rfl
    exact absurd ascii (by decide)
  · rintro rfl
    exact absurd ascii (by decide)

theorem lowerAt_capital_sigma (before after : List Char) :
    lowerAt before 'Σ' after = if endsWord before after then ['ς'] else ['σ'] := if_pos rfl

theorem lowerBetween_capital_sigma (before cs : List Char) :
    lowerBetween before (cs.flatMap lowerChar) ['Σ'] = lowerAt before 'Σ' cs := by
  rw [lowerBetween, lowerBetween, List.append_nil, List.nil_append, lowerAt_eq_iff]
  exact fun _ => endsWord_lowered before cs

theorem lowerBetween_upperChar_iff (before cs : List Char) (c : Char) :
    lowerBetween before (cs.flatMap lowerChar) (upperChar c) = lowerAt before c cs ↔
      Returns before c cs := by
  by_cases sigma : 'Σ' ∈ upperChar c
  · have raised : upperChar c = ['Σ'] := by
      obtain rfl | rfl | rfl := sigma_of_mem_upperChar sigma <;> decide
    rw [raised, lowerBetween_capital_sigma, Returns, raised]
    obtain rfl | rfl | rfl := sigma_of_mem_upperChar sigma
    · refine iff_of_true rfl ⟨nofun, nofun, fun _ => ?_⟩
      decide
    · have small : lowerAt before 'σ' cs = ['σ'] := lowerAt_of_ne (by decide) before cs
      have returned : ['Σ'].flatMap lowerChar = lowerChar 'σ' := by decide
      rw [small, lowerAt_capital_sigma]
      cases endsWord before cs <;> simp [returned]
    · have final : lowerAt before 'ς' cs = ['ς'] := lowerAt_of_ne (by decide) before cs
      rw [final, lowerAt_capital_sigma]
      cases endsWord before cs <;> simp
  · have other (s : Char) (raised : upperChar s = ['Σ']) : c ≠ s := by
      rintro rfl
      rw [raised] at sigma
      exact sigma (List.mem_singleton_self _)
    rw [lowerBetween_of_notMem sigma, lowerAt_of_ne (other 'Σ' (by decide)), Returns]
    have notSmall := other 'σ' (by decide)
    have notFinal := other 'ς' (by decide)
    simp [notSmall, notFinal]

/-- For a text behind another one, whether capitalizing it shows in the lower case. -/
theorem lower_capitalize_iff (front : List Char) (c : Char) (cs : List Char) :
    lower (front ++ capitalize (c :: cs)) = lower (front ++ c :: cs) ↔
      Returns front.reverse c cs ∧ NoFinalSigma (c :: front.reverse) cs := by
  have lowered (rest : List Char) : lower (front ++ rest) =
      lowerBetween [] rest front ++ lowerAfter front.reverse rest := by
    rw [lower, lowerAfter_append, List.append_nil]
  have capital : lowerAfter front.reverse (capitalize (c :: cs)) =
      lowerBetween front.reverse (cs.flatMap lowerChar) (upperChar c) ++ cs.flatMap lowerChar := by
    rw [capitalize, lowerAfter_append, lowerAfter_lowered]
  rw [lowered, lowered, capital, lowerAfter_cons, ← lowerBetween_upperChar_iff,
    ← lowerAfter_eq_flatMap_iff]
  constructor
  · intro same
    have behind := (List.append_inj same (length_lowerBetween ..)).2
    have ends := List.append_inj' behind (length_lowerAfter ..).symm
    exact ⟨ends.1, ends.2.symm⟩
  · rintro ⟨first, others⟩
    have returns := (lowerBetween_upperChar_iff front.reverse cs c).mp first
    have noIota : c ≠ Char.ofNat 0x345 := by
      rintro rfl
      exact absurd (returns.2.2 (by decide)) (by decide)
    -- What stands in front sees of the rest only whether it begins with a cased character.
    have cased : meetsCased (capitalize (c :: cs)) = meetsCased (c :: cs) := by
      rw [capitalize, meetsCased_upperChar noIota, meetsCased_cons, meetsCased_lowered,
        ← meetsCased_cons]
    have inFront : lowerBetween [] (capitalize (c :: cs)) front =
        lowerBetween [] (c :: cs) front := by
      rw [lowerBetween_eq_iff]
      intro front back split
      rw [endsWord, endsWord, meetsCased_append cased]
    rw [inFront, first, others]

end SavedFilter.Text
