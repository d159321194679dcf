import Mathlib.Algebra.Field.Rat
import SavedFilter.Number.Decimal

/-! # Numbers are read back from their text

Whole numbers are read back from their digits. The text of a decimal number is read as a decimal
that denotes the same number, whatever places it has and however large its scale is,
`ofText?_toText`. The two may differ in scale where zeros stand for it. -/
set_option autoImplicit false
namespace SavedFilter

/-! ## Digits -/

def AreDigits (ds : List Char) : Prop := ∀ c ∈ ds, c.isDigit

theorem areDigits_nil : AreDigits [] := by simp [AreDigits]

theorem areDigits_digitsOf (n : Nat) : AreDigits (digitsOf n) :=
  fun _ => Nat.isDigit_of_mem_toDigits (by decide) (by decide)

theorem digitsOf_ne_nil (n : Nat) : digitsOf n ≠ [] := Nat.toDigits_ne_nil

theorem valueOf_digitsOf (n : Nat) : valueOf (digitsOf n) = n := Nat.ofDigitChars_ten_toDigits

theorem areDigits_zeros (n : Nat) : AreDigits (List.replicate n '0') := by
  intro c member
  rw [List.eq_of_mem_replicate member]
  rfl

theorem valueOf_zeros_append (n : Nat) (ds : List Char) :
    valueOf (List.replicate n '0' ++ ds) = valueOf ds := by
  rw [valueOf, Nat.ofDigitChars_append, Nat.ofDigitChars_replicate_zero, Nat.mul_zero]
  rfl

theorem valueOf_append (ds es : List Char) :
    valueOf (ds ++ es) = valueOf ds * 10 ^ es.length + valueOf es := by
  rw [valueOf, Nat.ofDigitChars_append, Nat.ofDigitChars_eq_ofDigitChars_zero, Nat.mul_comm]
  rfl

theorem valueOf_append_zeros (ds : List Char) (n : Nat) :
    valueOf (ds ++ List.replicate n '0') = valueOf ds * 10 ^ n := by
  have zeros : valueOf (List.replicate n '0') = 0 := by
    rw [valueOf, Nat.ofDigitChars_replicate_zero, Nat.mul_zero]
  rw [valueOf_append, List.length_replicate, zeros, Nat.add_zero]

namespace AreDigits

variable {ds es : List Char}

theorem append (first : AreDigits ds) (second : AreDigits es) : AreDigits (ds ++ es) := by
  intro c member
  exact (List.mem_append.mp member).elim (first c) (second c)

theorem take (digits : AreDigits ds) (n : Nat) : AreDigits (ds.take n) :=
  fun c member => digits c (List.mem_of_mem_take member)

theorem drop (digits : AreDigits ds) (n : Nat) : AreDigits (ds.drop n) :=
  fun c member => digits c (List.mem_of_mem_drop member)

/-- A digit is no other character that has a meaning in a number. -/
theorem ne_of_mem (digits : AreDigits ds) {c other : Char} (member : c ∈ ds)
    (noDigit : other.isDigit = false) : c ≠ other := by
  rintro rfl
  exact absurd (digits c member) (by simp [noDigit])

theorem natural?_eq (digits : AreDigits ds) (someDigit : ds ≠ []) :
    natural? ds = some (valueOf ds) := by
  have noOther : ds.any (!·.isDigit) = false := by
    simpa [AreDigits] using digits
  simp [natural?, noOther, someDigit]

end AreDigits

/-! ## Signs and underscores -/

inductive Sign where
  | none
  | plus
  | minus

namespace Sign

def text : Sign → List Char
  | none => []
  | plus => ['+']
  | minus => ['-']

def apply : Sign → Int → Int
  | minus, n => -n
  | _, n => n

theorem apply_eq_mul (sign : Sign) (n : Int) : sign.apply n = sign.apply 1 * n := by
  cases sign <;> simp [apply]

theorem mem_text {sign : Sign} {c : Char} (member : c ∈ sign.text) : c = '+' ∨ c = '-' := by
  cases sign with
  | none => cases member
  | plus => exact .inl (List.mem_singleton.mp member)
  | minus => exact .inr (List.mem_singleton.mp member)

end Sign

/-- Digits with underscores among them, but not in front. -/
structure AreSpacedDigits (cs : List Char) : Prop where
  first : ∃ c rest, cs = c :: rest ∧ c.isDigit
  all : ∀ c ∈ cs, c.isDigit ∨ c = '_'

def unspaced (cs : List Char) : List Char := cs.filter (· != '_')

theorem AreSpacedDigits.spacedDigits?_eq {cs : List Char} (spaced : AreSpacedDigits cs) :
    Decimal.spacedDigits? cs = some (valueOf (unspaced cs)) := by
  obtain ⟨⟨c, rest, rfl, first⟩, all⟩ := spaced
  have others : rest.all (fun d => d.isDigit || d == '_') := by
    simpa using fun d member => all d (List.mem_cons_of_mem _ member)
  simp only [Decimal.spacedDigits?, first, others, Bool.and_self, if_true, unspaced]

namespace AreDigits

variable {ds : List Char}

theorem spaced (digits : AreDigits ds) (someDigit : ds ≠ []) : AreSpacedDigits ds := by
  obtain ⟨c, rest, rfl⟩ := List.exists_cons_of_ne_nil someDigit
  exact ⟨⟨c, rest, rfl, digits c List.mem_cons_self⟩, fun d member => .inl (digits d member)⟩

theorem unspaced_eq (digits : AreDigits ds) : unspaced ds = ds :=
  List.filter_eq_self.mpr fun c member => by simpa using digits.ne_of_mem member rfl

end AreDigits

namespace Decimal

/-! ## The parts of a decimal number -/

def signText (negative : Bool) : List Char := if negative then ['-'] else []

def signed (negative : Bool) (n : Nat) : Int := if negative then -n else n

/-- The digits behind a point, which is left out when there are none. -/
def fractionText : List Char → List Char
  | [] => []
  | d :: ds => '.' :: d :: ds

theorem fractionText_of_ne_nil {ds : List Char} (someDigit : ds ≠ []) :
    fractionText ds = '.' :: ds := by
  obtain ⟨d, rest, rfl⟩ := List.exists_cons_of_ne_nil someDigit
  rfl

theorem coefficient?_text {cs : List Char} (sign : Sign) (spaced : AreSpacedDigits cs) :
    coefficient? (sign.text ++ cs) = some (sign.apply (valueOf (unspaced cs))) := by
  have read := spaced.spacedDigits?_eq
  cases sign with
  | plus | minus => simp [Sign.text, Sign.apply, coefficient?, read]
  | none =>
    obtain ⟨c, rest, rfl, digit⟩ := spaced.first
    have noMinus : c ≠ '-' := by rintro rfl; cases digit
    have noPlus : c ≠ '+' := by rintro rfl; cases digit
    simp [Sign.text, Sign.apply, coefficient?, noMinus, noPlus, read]

theorem coefficient?_eq {ds : List Char} (negative : Bool) (digits : AreDigits ds)
    (someDigit : ds ≠ []) :
    coefficient? (signText negative ++ ds) = some (signed negative (valueOf ds)) := by
  have read (sign : Sign) := coefficient?_text sign (digits.spaced someDigit)
  rw [digits.unspaced_eq] at read
  cases negative with
  | true => exact read .minus
  | false => exact read .none

section Parts

variable (negative : Bool) {lead trail tail : List Char} {exponent : Int} {scale : Int64}

def isExponentMark (c : Char) : Bool := c == 'e' || c == 'E'

def BeginsExponent (tail : List Char) : Prop := ∀ c, tail.head? = some c → isExponentMark c

theorem beginsExponent_nil : BeginsExponent [] := by simp [BeginsExponent]

def pointText : Option (List Char) → List Char
  | none => []
  | some ds => '.' :: ds

/-- A text is read from what stands in front of its point, what stands behind it, and the
exponent. -/
theorem ofText?_split {behind : Option (List Char)} (noPoint : '.' ∉ lead)
    (unmarked : ∀ c ∈ lead ++ behind.getD [], isExponentMark c = false)
    (begins : BeginsExponent tail) :
    ofText? (lead ++ pointText behind ++ tail) = (do
      let exponent ← exponent? tail
      let coefficient ← coefficient? (lead ++ behind.getD [])
      let scale ← int64? ((unspaced (behind.getD [])).length - exponent)
      return ⟨coefficient, scale⟩) := by
  have noMark : ∀ c ∈ lead ++ pointText behind, (!isExponentMark c) = true := by
    intro c member
    cases behind with
    | none => simp [unmarked c (by simpa [pointText] using member)]
    | some ds =>
      obtain inside | rfl : c ∈ lead ++ ds ∨ c = '.' := by
        simp only [pointText, List.mem_append, List.mem_cons] at member ⊢
        tauto
      · simp [unmarked c inside]
      · rfl
  have unpointed : ∀ c ∈ lead, (c != '.') = true := by
    intro c member
    simpa using ne_of_mem_of_not_mem member noPoint
  have tailFirst : tail.takeWhile (!isExponentMark ·) = [] ∧
      tail.dropWhile (!isExponentMark ·) = tail := by
    cases tail with
    | nil => exact ⟨rfl, rfl⟩
    | cons c cs => simp [begins c rfl]
  have base : (lead ++ pointText behind ++ tail).takeWhile (!isExponentMark ·) =
      lead ++ pointText behind := by
    rw [List.takeWhile_append_of_pos noMark, tailFirst.1, List.append_nil]
  have rest : (lead ++ pointText behind ++ tail).dropWhile (!isExponentMark ·) = tail := by
    rw [List.dropWhile_append_of_pos noMark, tailFirst.2]
  have before : (lead ++ pointText behind).takeWhile (· != '.') = lead := by
    rw [List.takeWhile_append_of_pos unpointed]
    cases behind <;> simp [pointText]
  have after : ((lead ++ pointText behind).dropWhile (· != '.')).drop 1 = behind.getD [] := by
    rw [List.dropWhile_append_of_pos unpointed]
    cases behind <;> simp [pointText]
  simp only [isExponentMark] at base rest
  simp only [ofText?, base, rest, before, after, unspaced]

theorem unmarked_digits {ds : List Char} (digits : AreDigits ds) {c : Char} (member : c ∈ ds) :
    isExponentMark c = false := by
  have notSmallE : c ≠ 'e' := digits.ne_of_mem member rfl
  have notCapitalE : c ≠ 'E' := digits.ne_of_mem member rfl
  simp [isExponentMark, notSmallE, notCapitalE]

/-- A number written with digits, a point among them, and an exponent behind them. -/
theorem ofText?_parts (leadDigits : AreDigits lead) (someLead : lead ≠ [])
    (trailDigits : AreDigits trail) (begins : BeginsExponent tail)
    (read : exponent? tail = some exponent)
    (fits : int64? ((trail.length : Int) - exponent) = some scale) :
    ofText? (signText negative ++ lead ++ fractionText trail ++ tail) =
      some ⟨signed negative (valueOf (lead ++ trail)), scale⟩ := by
  have signOrDigit : ∀ c ∈ signText negative ++ (lead ++ trail),
      c = '-' ∨ c ∈ lead ++ trail := by
    intro c member
    cases negative with
    | true => simpa [signText] using member
    | false => exact .inr member
  have digits := leadDigits.append trailDigits
  have noPoint : '.' ∉ signText negative ++ lead := by
    intro member
    obtain sign | digit := signOrDigit '.' (by simp only [List.mem_append] at member ⊢; tauto)
    · exact absurd sign (by decide)
    · exact digits.ne_of_mem digit rfl rfl
  have unmarked : ∀ c ∈ signText negative ++ lead ++ trail, isExponentMark c = false := by
    intro c member
    obtain rfl | digit := signOrDigit c (by simpa using member)
    · rfl
    · exact unmarked_digits digits digit
  have coefficient := coefficient?_eq negative digits
    (List.append_ne_nil_of_left_ne_nil someLead _)
  have point : ∃ behind, fractionText trail = pointText behind ∧ behind.getD [] = trail := by
    cases trail with
    | nil => exact ⟨none, rfl, rfl⟩
    | cons d ds => exact ⟨some (d :: ds), rfl, rfl⟩
  obtain ⟨behind, text, rfl⟩ := point
  rw [text, ofText?_split noPoint unmarked begins, read, trailDigits.unspaced_eq,
    List.append_assoc, coefficient]
  simp [fits]

end Parts

/-! ## The forms of a decimal number -/

theorem pointed_eq (n : Nat) (ds : List Char) :
    pointed n ds = ds.take n ++ fractionText (ds.drop n) := by
  rw [pointed]
  split
  · rename_i inside
    rw [fractionText_of_ne_nil (by simpa using inside)]
  · rename_i outside
    rw [List.drop_eq_nil_of_le (by omega), List.take_of_length_le (by omega)]
    exact (List.append_nil ds).symm

def toRat (d : Decimal) : ℚ := d.coefficient * 10 ^ (-d.scale.toInt)

section Magnitude

variable {ds : List Char} (negative : Bool) {scale : Int64}

theorem ofText?_scientific (digits : AreDigits ds) (someDigit : ds ≠ [])
    (small : scale.toInt > ds.length + 5) :
    ofText? (signText negative ++ (pointed 1 ds ++ ['E', '-'] ++
      digitsOf (scale.toInt - ds.length + 1).toNat)) =
        some ⟨signed negative (valueOf ds), scale⟩ := by
  have exponent : exponent? ('E' :: '-' :: digitsOf (scale.toInt - ds.length + 1).toNat) =
      some (-((scale.toInt - ds.length + 1).toNat : Int)) := by
    simp [exponent?, integer?, (areDigits_digitsOf _).natural?_eq (digitsOf_ne_nil _),
      valueOf_digitsOf]
  have someLead : ds.take 1 ≠ [] := by simpa using someDigit
  have fits : int64? (((ds.drop 1).length : Int) -
      -((scale.toInt - ds.length + 1).toNat : Int)) = some scale := by
    have positive := List.length_pos_iff.mpr someDigit
    rw [← int64?_toInt scale, List.length_drop]
    congr 1
    omega
  have parts := ofText?_parts negative (digits.take 1) someLead (digits.drop 1)
    (by simp [BeginsExponent, isExponentMark]) exponent fits
  rw [List.take_append_drop] at parts
  rw [pointed_eq, ← parts]
  simp

theorem ofText?_trailed (digits : AreDigits ds) (someDigit : ds ≠ []) (large : -scale.toInt > 15) :
    ofText? (signText negative ++ (ds ++ ['e', '+'] ++ digitsOf (-scale.toInt).toNat)) =
      some ⟨signed negative (valueOf ds), scale⟩ := by
  have exponent : exponent? ('e' :: '+' :: digitsOf (-scale.toInt).toNat) =
      some ((-scale.toInt).toNat : Int) := by
    simp [exponent?, integer?, (areDigits_digitsOf _).natural?_eq (digitsOf_ne_nil _),
      valueOf_digitsOf]
  have fits : int64? ((([] : List Char).length : Int) - ((-scale.toInt).toNat : Int)) =
      some scale := by
    rw [← int64?_toInt scale, List.length_nil]
    congr 1
    omega
  have parts := ofText?_parts negative digits someDigit areDigits_nil
    (by simp [BeginsExponent, isExponentMark]) exponent fits
  rw [List.append_nil] at parts
  rw [← parts]
  simp [fractionText]

theorem ofText?_plain {lead trail : List Char} (leadDigits : AreDigits lead)
    (someLead : lead ≠ []) (trailDigits : AreDigits trail)
    (places : (trail.length : Int) = scale.toInt) :
    ofText? (signText negative ++ (lead ++ fractionText trail)) =
      some ⟨signed negative (valueOf (lead ++ trail)), scale⟩ := by
  have fits : int64? ((trail.length : Int) - 0) = some scale := by
    rw [Int.sub_zero, places, int64?_toInt]
  have parts := ofText?_parts negative leadDigits someLead trailDigits
    beginsExponent_nil rfl fits
  rw [List.append_nil, List.append_assoc] at parts
  exact parts

theorem ofText?_inside {n : Nat} (digits : AreDigits ds) (after : 0 < n) (before : n < ds.length)
    (places : (n : Int) = scale.toInt) :
    ofText? (signText negative ++ pointed (ds.length - n) ds) =
      some ⟨signed negative (valueOf ds), scale⟩ := by
  have someLead : ds.take (ds.length - n) ≠ [] := by
    rw [← List.length_pos_iff, List.length_take]
    omega
  have behind : ((ds.drop (ds.length - n)).length : Int) = scale.toInt := by
    rw [List.length_drop]
    omega
  have read := ofText?_plain negative (digits.take _) someLead (digits.drop _) behind
  rwa [List.take_append_drop, ← pointed_eq] at read

theorem ofText?_below_one {n : Nat} (digits : AreDigits ds) (someDigit : ds ≠ [])
    (places : ((n + ds.length : Nat) : Int) = scale.toInt) :
    ofText? (signText negative ++ (['0', '.'] ++ List.replicate n '0' ++ ds)) =
      some ⟨signed negative (valueOf ds), scale⟩ := by
  have behind : ((List.replicate n '0' ++ ds).length : Int) = scale.toInt := by
    rw [List.length_append, List.length_replicate, places]
  have read := ofText?_plain negative (areDigits_zeros 1) (by simp)
    ((areDigits_zeros n).append digits) behind
  rwa [valueOf_zeros_append, valueOf_zeros_append,
    fractionText_of_ne_nil (List.append_ne_nil_of_right_ne_nil _ someDigit)] at read

theorem toRat_zeros (n k : Nat) (negative : Bool) (scale : Int64) (places : -scale.toInt = k) :
    toRat ⟨signed negative (n * 10 ^ k), 0⟩ = toRat ⟨signed negative n, scale⟩ := by
  have zero : (0 : Int64).toInt = 0 := rfl
  rw [toRat, toRat, places, zero, neg_zero, zpow_zero, zpow_natCast]
  cases negative <;> simp [signed]

/-- Each of the five forms is read as the number that it was written for. -/
theorem ofText?_magnitudeText (n : Nat) (scale : Int64) :
    ∃ d, ofText? (signText negative ++ magnitudeText (digitsOf n) scale.toInt) = some d ∧
      d.toRat = toRat ⟨signed negative n, scale⟩ := by
  have digits := areDigits_digitsOf n
  have someDigit := digitsOf_ne_nil n
  have value := valueOf_digitsOf n
  rw [magnitudeText]
  split_ifs with small large whole inside
  · exact ⟨_, ofText?_scientific negative digits someDigit small, by rw [value]⟩
  · exact ⟨_, ofText?_trailed negative digits someDigit large, by rw [value]⟩
  · -- the zeros behind the digits count in the coefficient
    have noPlaces : (([] : List Char).length : Int) = (0 : Int64).toInt := rfl
    have read := ofText?_plain negative (digits.append (areDigits_zeros (-scale.toInt).toNat))
      (List.append_ne_nil_of_left_ne_nil someDigit _) areDigits_nil noPlaces
    simp only [fractionText, List.append_nil, valueOf_append_zeros, value] at read
    exact ⟨_, read, toRat_zeros n _ negative scale (by omega)⟩
  · have places : (scale.toInt.toNat : Int) = scale.toInt := by omega
    exact ⟨_, ofText?_inside negative digits (by omega) (by omega) places, by rw [value]⟩
  · have places : ((scale.toInt.toNat - (digitsOf n).length + (digitsOf n).length : Nat) : Int) =
        scale.toInt := by
      omega
    exact ⟨_, ofText?_below_one negative digits someDigit places, by rw [value]⟩

end Magnitude

/-- The text of a decimal is read, and as the same number. -/
theorem ofText?_toText (d : Decimal) : ∃ d', ofText? d.toText = some d' ∧ d'.toRat = d.toRat := by
  rw [toText]
  split
  · rename_i zero
    refine ⟨⟨0, 0⟩, by decide, ?_⟩
    simp [toRat, zero]
  · have sign : (if d.coefficient < 0 then ['-'] else []) =
        signText (decide (d.coefficient < 0)) := by
      simp [signText]
    have coefficient :
        signed (decide (d.coefficient < 0)) d.coefficient.natAbs = d.coefficient := by
      simp only [signed, decide_eq_true_eq]
      split <;> omega
    obtain ⟨d', read, same⟩ := ofText?_magnitudeText (decide (d.coefficient < 0))
      d.coefficient.natAbs d.scale
    rw [coefficient] at same
    exact ⟨d', sign ▸ read, same⟩

end Decimal
end SavedFilter
