import SavedFilter.Text.Case

/-! # The tables of letter case

What a case mapping changes is a letter and becomes letters: cased characters that are not
case-ignorable, `meetsCased_lowerChar` and `meetsCased_upperChar`. The combining iota U+0345, which
is both, is the one exception. What is in lower case stays as it is, `lowerChar_lowered`.

These are facts about each code point of the tables. A set of code points is taken as the number
that has its bits, so that a fact about all of them is one equation between numbers. -/
set_option autoImplicit false
namespace SavedFilter.Text

/-! ## Sets of code points as numbers -/

section Bits

variable {n k : Nat} {bounds : List Nat}

def bits (points : List Nat) : Nat := points.foldr (fun n rest => 1 <<< n ||| rest) 0

theorem testBit_bits (points : List Nat) (n : Nat) :
    (bits points).testBit n = decide (n ∈ points) := by
  induction points with
  | nil => simp [bits]
  | cons k points ih =>
    rw [bits, List.foldr_cons, ← bits, Nat.testBit_or, Nat.one_shiftLeft, Nat.testBit_two_pow, ih]
    simp [eq_comm]

/-- As many of the bits `0`, `step`, `2 * step` and so on as are counted. -/
def comb (step : Nat) : Nat → Nat
  | 0 => 0
  | count + 1 => comb step count <<< step ||| 1

theorem testBit_comb (step : Nat) {count : Nat} (counted : k < count) :
    (comb step count).testBit (k * step) = true := by
  induction count generalizing k with
  | zero => exact absurd counted (Nat.not_lt_zero k)
  | succ count ih =>
    rw [comb, Nat.testBit_or]
    cases k with
    | zero => simp
    | succ k => simp [Nat.testBit_shiftLeft, Nat.succ_mul, ih (Nat.lt_of_succ_lt_succ counted)]

/-- The bits inside the boundaries, which come in pairs. -/
def rangeBits : List Nat → Nat
  | first :: after :: bounds =>
    -- Boundaries behind a pair count beyond it only; nothing is assumed of their order.
    (1 <<< (after - first) - 1) <<< first |||
      rangeBits bounds >>> after <<< after >>> first <<< first
  | _ => 0

theorem inBounds_cons_of_le (passed : k ≤ n) : inBounds (k :: bounds) n = !inBounds bounds n := by
  simp only [inBounds, List.takeWhile_cons, decide_eq_true passed, if_true, List.length_cons]
  rcases Nat.mod_two_eq_zero_or_one (bounds.takeWhile (· ≤ n)).length with even | odd
  · simp [Nat.add_mod, even]
  · simp [Nat.add_mod, odd]

theorem inBounds_cons_of_lt (ahead : n < k) : inBounds (k :: bounds) n = false := by
  simp [inBounds, Nat.not_le.mpr ahead]

theorem testBit_rangeBits (pairs : bounds.length % 2 = 0) (n : Nat) :
    (rangeBits bounds).testBit n = inBounds bounds n := by
  induction bounds using rangeBits.induct with
  | case1 first after bounds ih =>
    have rest : (rangeBits bounds).testBit n = inBounds bounds n :=
      ih (by rwa [List.length_cons, List.length_cons, Nat.add_assoc, Nat.add_mod_right] at pairs)
    rw [rangeBits, Nat.testBit_or, Nat.testBit_shiftLeft, Nat.one_shiftLeft,
      Nat.testBit_two_pow_sub_one]
    simp only [Nat.testBit_shiftLeft, Nat.testBit_shiftRight]
    by_cases entered : first ≤ n
    · rw [inBounds_cons_of_le entered]
      by_cases left : after ≤ n
      · rw [inBounds_cons_of_le left, Nat.add_sub_cancel' entered, Nat.add_sub_cancel' left, rest]
        simp [entered, left, Nat.not_lt.mpr (Nat.sub_le_sub_right left first)]
      · rw [inBounds_cons_of_lt (Nat.lt_of_not_le left), Nat.add_sub_cancel' entered]
        simp [entered, left, Nat.sub_lt_sub_right entered (Nat.lt_of_not_le left)]
    · rw [inBounds_cons_of_lt (Nat.lt_of_not_le entered)]
      simp [entered]
  | case2 bounds short =>
    match bounds with
    | [] => simp [rangeBits, inBounds_nil]
    | [_] => cases pairs
    | first :: after :: bounds => exact absurd rfl (short first after bounds)

end Bits

/-! ## Letters -/

def IsLetter (n : Nat) : Prop :=
  inBounds casedBounds n = true ∧ inBounds caseIgnorableBounds n = false

instance (n : Nat) : Decidable (IsLetter n) := inferInstanceAs (Decidable (_ ∧ _))

theorem meetsCased_cons (c : Char) (cs : List Char) :
    meetsCased (c :: cs) = bif isCaseIgnorable c then meetsCased cs else isCased c := by
  cases ignorable : isCaseIgnorable c <;> simp [meetsCased, ignorable]

theorem meetsCased_letter {c : Char} (letter : IsLetter c.toNat) (cs : List Char) :
    meetsCased (c :: cs) = true := by
  have cased : isCased c = true := letter.1
  have notIgnorable : isCaseIgnorable c = false := letter.2
  rw [meetsCased_cons, notIgnorable, cased, cond_false]

theorem meetsCased_append {cs cs' : List Char} (same : meetsCased cs = meetsCased cs')
    (front : List Char) : meetsCased (front ++ cs) = meetsCased (front ++ cs') := by
  induction front with
  | nil => exact same
  | cons c front ih => rw [List.cons_append, List.cons_append, meetsCased_cons, meetsCased_cons, ih]

/-! ## Runs -/

namespace CaseRun

variable {r : CaseRun} {runs : List CaseRun} {n m : Nat}

def size (r : CaseRun) : Nat := (r.last - r.first) / r.step + 1

def bitsFrom (start : Nat) (r : CaseRun) : Nat := comb r.step r.size <<< start

def memberBits (runs : List CaseRun) : Nat :=
  runs.foldr (fun r rest => r.bitsFrom r.first ||| rest) 0

def imageBits (runs : List CaseRun) : Nat :=
  runs.foldr (fun r rest => r.bitsFrom r.image ||| rest) 0

theorem mapped?_eq_some_iff : r.mapped? n = some m ↔
    r.first ≤ n ∧ n ≤ r.last ∧ (n - r.first) % r.step = 0 ∧ r.image + (n - r.first) = m := by
  simp [mapped?, and_assoc]

theorem testBit_bitsFrom (start : Nat) {k : Nat} (within : k ≤ r.last - r.first)
    (onto : k % r.step = 0) : (r.bitsFrom start).testBit (start + k) = true := by
  have counted : k / r.step < r.size := Nat.lt_succ_of_le (Nat.div_le_div_right within)
  have steps : k / r.step * r.step = k := Nat.div_mul_cancel (Nat.dvd_of_mod_eq_zero onto)
  have tooth := testBit_comb r.step counted
  rw [steps] at tooth
  simp [bitsFrom, Nat.testBit_shiftLeft, tooth]

theorem testBit_of_mapped? (member : r ∈ runs) (mapped : r.mapped? n = some m) :
    (memberBits runs).testBit n = true ∧ (imageBits runs).testBit m = true := by
  obtain ⟨lower, upper, onto, rfl⟩ := mapped?_eq_some_iff.mp mapped
  have within : n - r.first ≤ r.last - r.first := Nat.sub_le_sub_right upper _
  have here := testBit_bitsFrom r.first within onto
  rw [Nat.add_sub_cancel' lower] at here
  have there := testBit_bitsFrom r.image within onto
  induction runs with
  | nil => cases member
  | cons s runs ih =>
    rw [memberBits, imageBits, List.foldr_cons, List.foldr_cons, ← memberBits, ← imageBits,
      Nat.testBit_or, Nat.testBit_or]
    obtain rfl | later := List.mem_cons.mp member
    · simp [here, there]
    · simp [ih later]

def HasChars (r : CaseRun) : Prop :=
  r.image + (r.last - r.first) < 0xd800 ∨
    0xdfff < r.image ∧ r.image + (r.last - r.first) < 0x110000

instance (r : CaseRun) : Decidable r.HasChars := inferInstanceAs (Decidable (_ ∨ _))

theorem toNat_image (chars : r.HasChars) (mapped : r.mapped? n = some m) :
    (Char.ofNat m).toNat = m := by
  obtain ⟨lower, upper, _, rfl⟩ := mapped?_eq_some_iff.mp mapped
  have valid : (r.image + (n - r.first)).isValidChar := by
    rw [HasChars] at chars
    rw [Nat.isValidChar]
    omega
  rw [Char.ofNat, dif_pos valid]
  rfl

end CaseRun

/-! ## The tables -/

/-- The code points that a mapping changes, and the first ones of what they become. Left out are the
combining iota and what U+0149 becomes, which begins with an apostrophe. -/
def changing : Nat :=
  CaseRun.memberBits lowerRuns ||| CaseRun.imageBits lowerRuns ||| bits [0x130] |||
    (CaseRun.memberBits upperRuns ^^^ bits [0x345]) ||| CaseRun.imageBits upperRuns |||
    bits (upperExpansions.map Prod.fst) |||
    bits ((upperExpansions.filter (·.1 != 0x149)).map fun e => (Char.ofNat (e.2.headD 0)).toNat)

theorem changing_table :
    (casedBounds.length % 2 = 0 ∧ changing &&& rangeBits casedBounds = changing) ∧
      caseIgnorableBounds.length % 2 = 0 ∧ changing &&& rangeBits caseIgnorableBounds = 0 := by
  decide +kernel

/-- No code point with a lower case is the lower case of another one in the runs. -/
theorem lowerRuns_table :
    (CaseRun.memberBits lowerRuns ||| bits [0x130]) &&& CaseRun.imageBits lowerRuns = 0 ∧
      ∀ r ∈ lowerRuns, r.HasChars := by
  decide +kernel

/-- The capital sigma is the image of two code points, and below U+0080 only the small letters have
an image. -/
theorem upperRuns_table : ∀ r ∈ upperRuns, r.HasChars ∧
    (r.image ≤ 0x3a3 → 0x3a3 ≤ r.image + (r.last - r.first) →
      r.image = 0x3a3 ∧ (r.first = 0x3c2 ∨ r.first = 0x3c3)) ∧
    (r.first < 0x80 → r.first = 0x61 ∧ r.last = 0x7a ∧ r.image = 0x41) := by
  decide +kernel

theorem upperExpansions_table : ∀ e ∈ upperExpansions,
    0x80 ≤ e.1 ∧ 'Σ' ∉ e.2.map Char.ofNat ∧ (e.1 = 0x149 → e.2 = [0x2bc, 0x4e]) := by
  decide +kernel

/-! ## What changes is a letter -/

theorem testBit_changing (n : Nat) : changing.testBit n =
    ((CaseRun.memberBits lowerRuns).testBit n || (CaseRun.imageBits lowerRuns).testBit n ||
      decide (n ∈ [0x130]) || ((CaseRun.memberBits upperRuns).testBit n ^^ decide (n ∈ [0x345])) ||
      (CaseRun.imageBits upperRuns).testBit n || decide (n ∈ upperExpansions.map Prod.fst) ||
      decide (n ∈ (upperExpansions.filter (·.1 != 0x149)).map fun e =>
        (Char.ofNat (e.2.headD 0)).toNat)) := by
  simp only [changing, Nat.testBit_or, Nat.testBit_xor, testBit_bits]

theorem isLetter_of_changing {n : Nat} (changes : changing.testBit n = true) : IsLetter n := by
  obtain ⟨⟨casedPairs, allCased⟩, ignorablePairs, noneIgnorable⟩ := changing_table
  have cased := congrArg (·.testBit n) allCased
  have notIgnorable := congrArg (·.testBit n) noneIgnorable
  simp only [Nat.testBit_and, changes, Bool.true_and, Nat.zero_testBit] at cased notIgnorable
  rw [testBit_rangeBits casedPairs] at cased
  rw [testBit_rangeBits ignorablePairs] at notIgnorable
  exact ⟨cased, notIgnorable⟩

theorem isLetter_lowerRuns {r : CaseRun} {n m : Nat} (member : r ∈ lowerRuns)
    (mapped : r.mapped? n = some m) : IsLetter n ∧ IsLetter m := by
  obtain ⟨changes, image⟩ := CaseRun.testBit_of_mapped? member mapped
  constructor
  · exact isLetter_of_changing (by simp [testBit_changing, changes])
  · exact isLetter_of_changing (by simp [testBit_changing, image])

theorem isLetter_upperRuns {r : CaseRun} {n m : Nat} (member : r ∈ upperRuns)
    (mapped : r.mapped? n = some m) : (n ≠ 0x345 → IsLetter n) ∧ IsLetter m := by
  obtain ⟨changes, image⟩ := CaseRun.testBit_of_mapped? member mapped
  constructor
  · exact fun other => isLetter_of_changing (by simp [testBit_changing, changes, other])
  · exact isLetter_of_changing (by simp [testBit_changing, image])

theorem isLetter_upperExpansions {n : Nat} {ns : List Nat} (expanded : (n, ns) ∈ upperExpansions) :
    IsLetter n ∧ (n ≠ 0x149 → IsLetter (Char.ofNat (ns.headD 0)).toNat) := by
  have key : n ∈ upperExpansions.map Prod.fst := List.mem_map_of_mem expanded
  refine ⟨isLetter_of_changing (by simp only [testBit_changing, key]; simp), fun other => ?_⟩
  have kept : (n, ns) ∈ upperExpansions.filter (·.1 != 0x149) :=
    List.mem_filter.mpr ⟨expanded, by simpa using other⟩
  have head := List.mem_map_of_mem (f := fun e => (Char.ofNat (e.2.headD 0)).toNat) kept
  exact isLetter_of_changing (by simp only [testBit_changing, head]; simp)

/-! ## Lower case of a character -/

/-- A character with a lower case in the runs, where the place of that is told as well. -/
theorem lowerChar_cases (c : Char) :
    c.toNat = 0x130 ∧ lowerChar c = ['i', Char.ofNat 0x307] ∨
      (∃ d r, r ∈ lowerRuns ∧ r.mapped? c.toNat = some d.toNat ∧ lowerChar c = [d]) ∨
      lowerChar c = [c] := by
  rw [lowerChar]
  by_cases dotted : c.toNat = 0x130
  · simp [dotted]
  · rw [if_neg dotted]
    cases found : lowerRuns.findSome? (·.mapped? c.toNat) with
    | none => exact .inr (.inr rfl)
    | some m =>
      obtain ⟨r, member, mapped⟩ := List.exists_of_findSome?_eq_some found
      have chars := lowerRuns_table.2 r member
      refine .inr (.inl ⟨Char.ofNat m, r, member, ?_, rfl⟩)
      rwa [CaseRun.toNat_image chars mapped]

/-- What is an image in the runs has no other lower case. -/
theorem lowerChar_image {d : Char} (image : (CaseRun.imageBits lowerRuns).testBit d.toNat = true) :
    lowerChar d = [d] := by
  have apart := congrArg (·.testBit d.toNat) lowerRuns_table.1
  simp only [Nat.testBit_and, Nat.testBit_or, image, Bool.and_true, Nat.zero_testBit,
    Bool.or_eq_false_iff, testBit_bits, decide_eq_false_iff_not, List.mem_singleton] at apart
  obtain ⟨dotted, _⟩ | ⟨e, r, member, mapped, _⟩ | same := lowerChar_cases d
  · exact absurd dotted apart.2
  · rw [(CaseRun.testBit_of_mapped? member mapped).1] at apart
    cases apart.1
  · exact same

theorem lowerChar_lowered {c d : Char} (lowered : d ∈ lowerChar c) : lowerChar d = [d] := by
  obtain ⟨_, image⟩ | ⟨e, r, member, mapped, image⟩ | image := lowerChar_cases c
  · rw [image] at lowered
    obtain rfl | rfl : d = 'i' ∨ d = Char.ofNat 0x307 := by simpa using lowered
    · decide
    · decide
  · rw [image, List.mem_singleton] at lowered
    exact lowerChar_image (lowered ▸ (CaseRun.testBit_of_mapped? member mapped).2)
  · rw [image, List.mem_singleton] at lowered
    rw [lowered, image]

theorem lowerChar_capitals :
    ∀ k < 26, lowerChar (Char.ofNat (0x41 + k)) = [Char.ofNat (0x61 + k)] := by
  decide

theorem meetsCased_lowerChar (c : Char) (cs : List Char) :
    meetsCased (lowerChar c ++ cs) = meetsCased (c :: cs) := by
  obtain ⟨dotted, image⟩ | ⟨d, r, member, mapped, image⟩ | image := lowerChar_cases c
  · have letter : IsLetter c.toNat := isLetter_of_changing (by simp [testBit_changing, dotted])
    rw [image, meetsCased_letter letter]
    exact meetsCased_letter (by decide) _
  · obtain ⟨capital, small⟩ := isLetter_lowerRuns member mapped
    rw [image, meetsCased_letter capital]
    exact meetsCased_letter small cs
  · rw [image]
    rfl

/-! ## Upper case of a character -/

theorem upperChar_cases (c : Char) :
    (∃ ns, (c.toNat, ns) ∈ upperExpansions ∧ upperChar c = ns.map Char.ofNat) ∨
      (∃ d r, r ∈ upperRuns ∧ r.mapped? c.toNat = some d.toNat ∧ upperChar c = [d]) ∨
      upperChar c = [c] := by
  rw [upperChar]
  cases expanded : upperExpansions.lookup c.toNat with
  | some ns =>
    obtain ⟨before, after, split, _⟩ := List.lookup_eq_some_iff.mp expanded
    refine .inl ⟨ns, ?_, rfl⟩
    rw [split]
    exact List.mem_append_right before (List.mem_cons_self ..)
  | none =>
    cases found : upperRuns.findSome? (·.mapped? c.toNat) with
    | none => exact .inr (.inr rfl)
    | some m =>
      obtain ⟨r, member, mapped⟩ := List.exists_of_findSome?_eq_some found
      have chars := (upperRuns_table r member).1
      refine .inr (.inl ⟨Char.ofNat m, r, member, ?_, rfl⟩)
      rwa [CaseRun.toNat_image chars mapped]

theorem meetsCased_expansion {n : Nat} {ns : List Nat} (expanded : (n, ns) ∈ upperExpansions)
    (cs : List Char) : meetsCased (ns.map Char.ofNat ++ cs) = true := by
  by_cases special : n = 0x149
  · obtain rfl : ns = [0x2bc, 0x4e] := (upperExpansions_table (n, ns) expanded).2.2 special
    have passed : isCaseIgnorable (Char.ofNat 0x2bc) = true := by decide
    rw [List.map_cons, List.cons_append, meetsCased_cons, passed, cond_true]
    exact meetsCased_letter (by decide) cs
  · have letter := (isLetter_upperExpansions expanded).2 special
    cases ns with
    | nil => exact absurd letter (by decide)
    | cons k ns => exact meetsCased_letter letter _

theorem meetsCased_upperChar {c : Char} (noIota : c ≠ Char.ofNat 0x345) (cs : List Char) :
    meetsCased (upperChar c ++ cs) = meetsCased (c :: cs) := by
  obtain ⟨ns, expanded, image⟩ | ⟨d, r, member, mapped, image⟩ | image := upperChar_cases c
  · rw [image, meetsCased_letter (isLetter_upperExpansions expanded).1,
      meetsCased_expansion expanded]
  · have other : c.toNat ≠ 0x345 := by
      intro same
      rw [← same, Char.ofNat_toNat] at noIota
      exact noIota rfl
    obtain ⟨small, capital⟩ := isLetter_upperRuns member mapped
    rw [image, meetsCased_letter (small other)]
    exact meetsCased_letter capital cs
  · rw [image]
    rfl

/-- Only the three sigmas have the capital sigma in their upper case. -/
theorem sigma_of_mem_upperChar {c : Char} (raised : 'Σ' ∈ upperChar c) :
    c = 'Σ' ∨ c = 'σ' ∨ c = 'ς' := by
  obtain ⟨ns, expanded, image⟩ | ⟨d, r, member, mapped, image⟩ | image := upperChar_cases c
  · rw [image] at raised
    exact absurd raised (upperExpansions_table _ expanded).2.1
  · obtain rfl : 'Σ' = d := by simpa [image] using raised
    obtain ⟨lower, upper, _, place⟩ := CaseRun.mapped?_eq_some_iff.mp mapped
    have here : r.image + (c.toNat - r.first) = 0x3a3 := place
    obtain ⟨begins, first⟩ := (upperRuns_table r member).2.1 (by omega) (by omega)
    have small : c.toNat = 0x3c2 ∨ c.toNat = 0x3c3 := by omega
    obtain final | plain := small
    · exact .inr (.inr ((Char.ofNat_toNat c).symm.trans (congrArg Char.ofNat final)))
    · exact .inr (.inl ((Char.ofNat_toNat c).symm.trans (congrArg Char.ofNat plain)))
  · rw [image, List.mem_singleton] at raised
    exact .inl raised.symm

/-- Below U+0080 the lower case of a character is that of its capital. -/
theorem lowerChar_upperChar_of_ascii {c : Char} (ascii : c.toNat < 0x80) :
    (upperChar c).flatMap lowerChar = lowerChar c := by
  obtain ⟨ns, expanded, _⟩ | ⟨d, r, member, mapped, image⟩ | image := upperChar_cases c
  · exact absurd ascii (Nat.not_lt.mpr (upperExpansions_table _ expanded).1)
  · obtain ⟨lower, upper, _, place⟩ := CaseRun.mapped?_eq_some_iff.mp mapped
    obtain ⟨first, last, capital⟩ := (upperRuns_table r member).2.2 (Nat.lt_of_le_of_lt lower ascii)
    have lowered : lowerChar d = [c] := by
      have letter := lowerChar_capitals (c.toNat - 0x61) (by omega)
      have dEq : 0x41 + (c.toNat - 0x61) = d.toNat := by rw [← place, first, capital]
      have cEq : 0x61 + (c.toNat - 0x61) = c.toNat := by omega
      rwa [dEq, cEq, Char.ofNat_toNat, Char.ofNat_toNat] at letter
    have kept : lowerChar c = [c] := lowerChar_lowered (lowered ▸ List.mem_singleton_self c)
    rw [image, List.flatMap_singleton, lowered, kept]
  · rw [image, List.flatMap_singleton]

end SavedFilter.Text
