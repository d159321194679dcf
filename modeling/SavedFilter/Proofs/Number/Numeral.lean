import Mathlib.Tactic.FieldSimp
import SavedFilter.Proofs.Number.Decimal

/-! # Numerals

A numeral is a decimal number as it is written: digits with a point among them, perhaps with a sign
in front and an exponent behind, and with underscores anywhere behind the first digit. It is read as
the number that is written, `Numeral.toRat_of_ofText?`, and it is read unless its places are more
than 64 bits can count, `Numeral.ofText?_text`. -/
set_option autoImplicit false
namespace SavedFilter

structure Exponent where
  mark : Char
  sign : Sign
  digits : List Char
  isMark : Decimal.isExponentMark mark
  someDigit : digits ≠ []
  areDigits : AreDigits digits

namespace Exponent

def text (e : Exponent) : List Char := e.mark :: (e.sign.text ++ e.digits)

def value (e : Exponent) : Int := e.sign.apply (valueOf e.digits)

end Exponent

structure Numeral where
  sign : Sign
  whole : List Char
  /-- What stands behind the point, if there is one. -/
  fraction : Option (List Char)
  exponent : Option Exponent
  spaced : AreSpacedDigits (whole ++ fraction.getD [])

/-! ## What is read -/

theorem integer?_text {ds : List Char} (sign : Sign) (digits : AreDigits ds) (someDigit : ds ≠ []) :
    integer? (sign.text ++ ds) = some (sign.apply (valueOf ds)) := by
  have read := digits.natural?_eq someDigit
  cases sign with
  | plus | minus => simp [Sign.text, Sign.apply, integer?, read]
  | none =>
    obtain ⟨c, rest, rfl⟩ := List.exists_cons_of_ne_nil someDigit
    have noMinus : c ≠ '-' := digits.ne_of_mem List.mem_cons_self rfl
    have noPlus : c ≠ '+' := digits.ne_of_mem List.mem_cons_self rfl
    simp [Sign.text, Sign.apply, integer?, noMinus, noPlus, read]

namespace Numeral

variable (n : Numeral)

def places : Nat := (unspaced (n.fraction.getD [])).length

def power : Int := n.exponent.elim 0 Exponent.value

def text : List Char :=
  n.sign.text ++ n.whole ++ Decimal.pointText n.fraction ++ n.exponent.elim [] Exponent.text

def value : ℚ :=
  n.sign.apply 1 *
    (valueOf (unspaced n.whole) + valueOf (unspaced (n.fraction.getD [])) / 10 ^ n.places) *
    10 ^ n.power

theorem mem_significand {c : Char}
    (member : c ∈ n.sign.text ++ n.whole ++ n.fraction.getD []) :
    c.isDigit ∨ c = '_' ∨ c = '+' ∨ c = '-' := by
  rw [List.append_assoc, List.mem_append] at member
  obtain sign | digit := member
  · exact .inr (.inr (Sign.mem_text sign))
  · exact (n.spaced.all c digit).imp id .inl

theorem exponent?_text : Decimal.exponent? (n.exponent.elim [] Exponent.text) = some n.power := by
  rw [power]
  cases n.exponent with
  | none => rfl
  | some e => exact integer?_text e.sign e.areDigits e.someDigit

theorem beginsExponent : Decimal.BeginsExponent (n.exponent.elim [] Exponent.text) := by
  cases n.exponent with
  | none => exact Decimal.beginsExponent_nil
  | some e =>
    intro c first
    obtain rfl : e.mark = c := Option.some.inj first
    exact e.isMark

/-- A numeral is read, with its digits as one coefficient, unless its places do not fit. -/
theorem ofText?_text : Decimal.ofText? n.text =
    (int64? (n.places - n.power)).map
      (Decimal.mk (n.sign.apply (valueOf (unspaced (n.whole ++ n.fraction.getD []))))) := by
  have noPoint : '.' ∉ n.sign.text ++ n.whole := by
    intro member
    have known := n.mem_significand (List.mem_append_left _ member)
    revert known
    decide
  have unmarked : ∀ c ∈ n.sign.text ++ n.whole ++ n.fraction.getD [],
      Decimal.isExponentMark c = false := by
    intro c member
    rw [Decimal.isExponentMark, Bool.or_eq_false_iff, beq_eq_false_iff_ne, beq_eq_false_iff_ne]
    have known := n.mem_significand member
    constructor <;> rintro rfl <;> exact absurd known (by decide)
  rw [text, Decimal.ofText?_split noPoint unmarked n.beginsExponent, n.exponent?_text,
    List.append_assoc, Decimal.coefficient?_text n.sign n.spaced, Option.map_eq_bind]
  rfl

/-- What is read is the number that is written. -/
theorem toRat_of_ofText? {d : Decimal} (read : Decimal.ofText? n.text = some d) :
    d.toRat = n.value := by
  rw [ofText?_text, Option.map_eq_some_iff] at read
  obtain ⟨scale, fits, rfl⟩ := read
  have digits : valueOf (unspaced (n.whole ++ n.fraction.getD [])) =
      valueOf (unspaced n.whole) * 10 ^ n.places + valueOf (unspaced (n.fraction.getD [])) := by
    rw [unspaced, List.filter_append]
    exact valueOf_append _ _
  have exponent : -scale.toInt = n.power - (n.places : Int) := by
    rw [toInt_of_int64? fits]
    omega
  rw [Decimal.toRat, exponent, Sign.apply_eq_mul, digits, value, zpow_sub₀ (by norm_num),
    zpow_natCast]
  push_cast
  field_simp

end Numeral
end SavedFilter
