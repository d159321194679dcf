import SavedFilter.Text.Case

/-! # Lower case of a part of a text

A text is lowered character by character, but for the capital sigma, whose lower case depends on
the letters around it. So a part of a text is not always lowered in it as it is by itself: it is
exactly when each capital sigma of the part ends a word in the text if it ends one in the part, and
only then, `lowerBetween_eq_lower_iff`. -/
set_option autoImplicit false
namespace SavedFilter.Text

/-- A capital sigma between the two texts, the first of them given from its end, ends a word. -/
def endsWord (before after : List Char) : Bool := meetsCased before && !meetsCased after

def lowerAt (before : List Char) (c : Char) (after : List Char) : List Char :=
  if c = 'Σ' then if endsWord before after then ['ς'] else ['σ'] else lowerChar c

def lowerBetween (before after : List Char) : List Char → List Char
  | [] => []
  | c :: rest => lowerAt before c (rest ++ after) ++ lowerBetween (c :: before) after rest

theorem lowerAfter_cons (before : List Char) (c : Char) (rest : List Char) :
    lowerAfter before (c :: rest) = lowerAt before c rest ++ lowerAfter (c :: before) rest := rfl

theorem lowerAfter_append (before cs after : List Char) :
    lowerAfter before (cs ++ after) =
      lowerBetween before after cs ++ lowerAfter (cs.reverse ++ before) after := by
  induction cs generalizing before with
  | nil => rfl
  | cons c cs ih =>
    rw [List.cons_append, lowerAfter_cons, ih, lowerBetween, List.reverse_cons, List.append_assoc,
      List.append_assoc]
    rfl

theorem lowerAfter_eq_lowerBetween (before cs : List Char) :
    lowerAfter before cs = lowerBetween before [] cs := by
  have whole := lowerAfter_append before cs []
  rw [List.append_nil] at whole
  rw [whole]
  exact List.append_nil _

theorem lower_eq_lowerBetween (cs : List Char) : lower cs = lowerBetween [] [] cs :=
  lowerAfter_eq_lowerBetween [] cs

/-! ## Parts that are lowered as by themselves -/

theorem length_lowerAt (before after before' after' : List Char) (c : Char) :
    (lowerAt before c after).length = (lowerAt before' c after').length := by
  by_cases sigma : c = 'Σ'
  · have one (b a : List Char) : (lowerAt b c a).length = 1 := by
      rw [lowerAt, if_pos sigma]
      split <;> rfl
    rw [one, one]
  · rw [lowerAt, lowerAt, if_neg sigma, if_neg sigma]

theorem lowerAt_eq_iff (before after before' after' : List Char) (c : Char) :
    lowerAt before c after = lowerAt before' c after' ↔
      (c = 'Σ' → endsWord before after = endsWord before' after') := by
  by_cases sigma : c = 'Σ'
  · simp only [lowerAt, sigma, if_true, true_implies]
    cases endsWord before after <;> cases endsWord before' after' <;> simp
  · rw [lowerAt, lowerAt, if_neg sigma, if_neg sigma]
    exact ⟨fun _ same => absurd same sigma, fun _ => rfl⟩

theorem length_lowerBetween (before after before' after' cs : List Char) :
    (lowerBetween before after cs).length = (lowerBetween before' after' cs).length := by
  induction cs generalizing before before' with
  | nil => rfl
  | cons c cs ih =>
    rw [lowerBetween, lowerBetween, List.length_append, List.length_append,
      length_lowerAt before _ before' (cs ++ after'), ih]

theorem length_lower (before after cs : List Char) :
    (lower cs).length = (lowerBetween before after cs).length := by
  rw [lower_eq_lowerBetween]
  exact length_lowerBetween ..

theorem lowerBetween_eq_iff (before after before' after' cs : List Char) :
    lowerBetween before after cs = lowerBetween before' after' cs ↔
      ∀ front back, cs = front ++ 'Σ' :: back →
        endsWord (front.reverse ++ before) (back ++ after) =
          endsWord (front.reverse ++ before') (back ++ after') := by
  induction cs generalizing before before' with
  | nil => simp [lowerBetween]
  | cons c cs ih =>
    have parts : lowerBetween before after (c :: cs) = lowerBetween before' after' (c :: cs) ↔
        lowerAt before c (cs ++ after) = lowerAt before' c (cs ++ after') ∧
          lowerBetween (c :: before) after cs = lowerBetween (c :: before') after' cs := by
      rw [lowerBetween, lowerBetween]
      constructor
      · exact fun same => List.append_inj same (length_lowerAt ..)
      · rintro ⟨first, others⟩
        rw [first, others]
    rw [parts, lowerAt_eq_iff, ih]
    constructor
    · rintro ⟨first, others⟩ front back split
      cases front with
      | nil =>
        obtain ⟨rfl, rfl⟩ := List.cons.inj split
        exact first rfl
      | cons f front =>
        obtain ⟨rfl, rfl⟩ := List.cons.inj split
        have later := others front back rfl
        simpa using later
    · intro everywhere
      constructor
      · rintro rfl
        exact everywhere [] cs rfl
      · rintro front back rfl
        have later := everywhere (c :: front) back rfl
        simpa using later

/-- Each capital sigma of the text ends a word between the two others if and only if it ends one
without them. -/
def SigmasAgree (before after cs : List Char) : Prop :=
  ∀ front back, cs = front ++ 'Σ' :: back →
    endsWord (front.reverse ++ before) (back ++ after) = endsWord front.reverse back

theorem lowerBetween_eq_lower_iff (before after cs : List Char) :
    lowerBetween before after cs = lower cs ↔ SigmasAgree before after cs := by
  rw [lower_eq_lowerBetween, lowerBetween_eq_iff, SigmasAgree]
  simp only [List.append_nil]

theorem infix_of_sigmasAgree {front cs back : List Char}
    (agree : SigmasAgree front.reverse back cs) : lower cs <:+: lower (front ++ cs ++ back) := by
  rw [lower.eq_def (front ++ cs ++ back), List.append_assoc, lowerAfter_append, lowerAfter_append,
    List.append_nil, (lowerBetween_eq_lower_iff ..).mpr agree, ← List.append_assoc]
  exact List.infix_append _ _ _

theorem lower_prefix_iff (cs back : List Char) :
    lower cs <+: lower (cs ++ back) ↔ SigmasAgree [] back cs := by
  rw [← lowerBetween_eq_lower_iff, lower.eq_def (cs ++ back), lowerAfter_append]
  constructor
  · rintro ⟨rest, same⟩
    exact (List.append_inj same (length_lower ..)).1.symm
  · intro same
    rw [same]
    exact List.prefix_append _ _

theorem lower_suffix_iff (front cs : List Char) :
    lower cs <:+ lower (front ++ cs) ↔ SigmasAgree front.reverse [] cs := by
  rw [← lowerBetween_eq_lower_iff, lower.eq_def (front ++ cs), lowerAfter_append,
    List.append_nil, lowerAfter_eq_lowerBetween]
  constructor
  · rintro ⟨rest, same⟩
    exact (List.append_inj' same (length_lower ..)).2.symm
  · intro same
    rw [same]
    exact List.suffix_append _ _

theorem sigmasAgree_of_notMem {before after cs : List Char} (noSigma : 'Σ' ∉ cs) :
    SigmasAgree before after cs := by
  intro front back split
  rw [split] at noSigma
  exact absurd (by simp) noSigma

theorem lower_of_notMem {cs : List Char} (noSigma : 'Σ' ∉ cs) :
    lower cs = cs.flatMap lowerChar := by
  have step (before : List Char) : lowerAfter before cs = cs.flatMap lowerChar := by
    induction cs generalizing before with
    | nil => rfl
    | cons c cs ih =>
      obtain ⟨other, others⟩ := List.ne_and_not_mem_of_not_mem_cons noSigma
      rw [lowerAfter_cons, lowerAt, if_neg other.symm, ih others, List.flatMap_cons]
  exact step []

/-! ## The letters of `date` -/

theorem eq_of_toLower {c x : Char} (same : c.toLower = x) : c = x ∨ c.toNat + 32 = x.toNat := by
  unfold Char.toLower at same
  split at same
  · rename_i upper
    have last : c.val.toNat ≤ 90 := upper.2
    right
    rw [← same]
    change c.val.toNat + 32 = (c.val + 32).toNat
    rw [UInt32.toNat_add]
    change _ = (c.val.toNat + 32) % _
    omega
  · exact .inl same

theorem lowerChar_of_toLower {c x : Char} (letter : x ∈ ['d', 'a', 't', 'e'])
    (same : c.toLower = x) : lowerChar c = [x] := by
  have images : lowerChar x = [x] ∧ lowerChar (Char.ofNat (x.toNat - 32)) = [x] := by
    simp only [List.mem_cons, List.not_mem_nil, or_false] at letter
    obtain rfl | rfl | rfl | rfl := letter <;> decide
  obtain rfl | capital := eq_of_toLower same
  · exact images.1
  · have cEq : c = Char.ofNat (x.toNat - 32) := by
      rw [← capital, Nat.add_sub_cancel, Char.ofNat_toNat]
    rw [cEq]
    exact images.2

/-- The letters are found in the lower case of a text that has them in any letter case. -/
theorem date_infix_lower {cs : List Char} (named : ['d', 'a', 't', 'e'] <:+: cs.map Char.toLower) :
    ['d', 'a', 't', 'e'] <:+: lower cs := by
  obtain ⟨front, back, split⟩ := named
  obtain ⟨cs₁, cs₂, rfl, before, rfl⟩ := List.map_eq_append_iff.mp split.symm
  obtain ⟨first, word, rfl, rfl, lowered⟩ := List.map_eq_append_iff.mp before
  have letter {c : Char} (member : c ∈ word) : c.toLower ∈ ['d', 'a', 't', 'e'] := by
    rw [← lowered]
    exact List.mem_map_of_mem member
  have noSigma : 'Σ' ∉ word := by
    intro member
    exact absurd (letter member) (by decide)
  have images : word.flatMap lowerChar = word.map Char.toLower := by
    rw [List.map_eq_flatMap, List.flatMap_def, List.flatMap_def]
    exact congrArg List.flatten
      (List.map_congr_left fun c member => lowerChar_of_toLower (letter member) rfl)
  rw [← lowered, ← images, ← lower_of_notMem noSigma]
  exact infix_of_sigmasAgree (sigmasAgree_of_notMem noSigma)

end SavedFilter.Text
