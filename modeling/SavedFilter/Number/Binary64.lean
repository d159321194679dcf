import SavedFilter.Number.Decimal

/-! # Finite binary64 numbers, exactly

A finite binary64 number is a whole significand of at most 53 bits times a power of two. Rounding,
products and quotients are computed on exact ratios of natural numbers; a result past the largest
finite number is refused. -/
set_option autoImplicit false
namespace SavedFilter

/-- The number `± significand * 2 ^ exponent`. The significand is below `2 ^ 53`; it is at least
`2 ^ 52` unless the exponent is the least one, `-1074`. -/
structure Binary64 where
  negative : Bool
  significand : Nat
  exponent : Int
deriving DecidableEq

namespace Binary64

def leastExponent : Int := -1074

def greatestExponent : Int := 971

/-- `num / den` rounded to the nearest whole number, a half to the even neighbour. -/
def roundDiv (num den : Nat) : Nat :=
  let q := num / den
  let r := num % den
  if den < 2 * r || (2 * r == den && q % 2 == 1) then q + 1 else q

/-- The ratio `num / den` divided by `2 ^ e`, as a ratio. -/
def scaled (num den : Nat) (e : Int) : Nat × Nat :=
  if 0 ≤ e then (num, den * Nat.pow 2 e.toNat) else (num * Nat.pow 2 (-e).toNat, den)

/-- The exponent at which `num / den` has a significand of 53 bits, or the least one. -/
def exponentFor (num den : Nat) : Int :=
  let e := (Nat.log2 num : Int) - Nat.log2 den - 52
  let (n, d) := scaled num den e
  max leastExponent (if n < d * Nat.pow 2 52 then e - 1 else e)

/-- The binary64 number nearest to `num / den`, a half to the even significand; `none` past the
largest finite number. -/
def ofRatio? (negative : Bool) (num den : Nat) : Option Binary64 :=
  if num = 0 then some ⟨negative, 0, leastExponent⟩
  else
    let e := exponentFor num den
    let (n, d) := scaled num den e
    let q := roundDiv n d
    let (q, e) := if q = Nat.pow 2 53 then (Nat.pow 2 52, e + 1) else (q, e)
    if greatestExponent < e then none else some ⟨negative, q, e⟩

def ratio (x : Binary64) : Nat × Nat := scaled x.significand 1 (-x.exponent)

/-- The magnitude times a whole number that is itself rounded first. -/
def mulRounded? (x : Binary64) (n : Nat) : Option Binary64 := do
  let y ← ofRatio? false n 1
  let (a, b) := x.ratio
  let (c, d) := y.ratio
  ofRatio? x.negative (a * c) (b * d)

def divRounded? (x : Binary64) (n : Nat) : Option Binary64 := do
  let y ← ofRatio? false n 1
  let (a, b) := x.ratio
  let (c, d) := y.ratio
  ofRatio? x.negative (a * d) (b * c)

/-- Divides by `10 ^ k`, in steps of at most `10 ^ 308`, rounding each step. -/
def divPowerOfTen? (x : Binary64) (k : Nat) : Option Binary64 :=
  if k ≤ 308 then x.divRounded? (Nat.pow 10 k)
  else if x.significand = 0 then some x
  else (x.divRounded? (Nat.pow 10 308)).bind (·.divPowerOfTen? (k - 308))
termination_by k

/-- The number `± n * 10 ^ k` reached by rounding `n` first and then one product with a rounded
power of ten, or quotients by them. -/
def ofScaled? (negative : Bool) (n : Nat) (k : Int) : Option Binary64 := do
  let x ← ofRatio? negative n 1
  if k < 0 then x.divPowerOfTen? (-k).toNat
  else if k ≤ 308 then x.mulRounded? (Nat.pow 10 k.toNat)
  else if x.significand = 0 then some x
  else none

def toDecimal (x : Binary64) : Decimal :=
  if x.significand = 0 then .ofInt 0
  else
    let sign : Int := if x.negative then -1 else 1
    if 0 ≤ x.exponent then .ofInt (sign * (x.significand * Nat.pow 2 x.exponent.toNat : Nat))
    else
      let places := (-x.exponent).toNat
      let spare := twos places x.significand
      let kept := places - spare
      ⟨sign * (x.significand / Nat.pow 2 spare * Nat.pow 5 kept : Nat), Int64.ofNat kept⟩
where
  /-- How often two divides a number, counted up to a limit. -/
  twos : Nat → Nat → Nat
    | 0, _ => 0
    | limit + 1, n => if n % 2 = 0 then twos limit (n / 2) + 1 else 0

end Binary64
end SavedFilter
