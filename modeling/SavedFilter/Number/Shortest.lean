import SavedFilter.Number.Binary64

/-! # The shortest decimal of a binary64 number

A decimal stands for a binary64 number when it lies in the interval of the reals that round to
it; the ends of the interval belong to it exactly when the significand is even. The digits chosen
are the fewest that do, and among those the nearest to the number, the even one at a tie. On the
grid of decimals with a given number of digits only the two neighbours of the number need a
look: if any point of the grid lies in the interval, one of these does. -/
set_option autoImplicit false
namespace SavedFilter.Binary64

/-- The interval of a positive number, over the common denominator `den`: the number is
`mid / den`, the ends are `low / den` and `high / den`. -/
structure Rounding where
  low : Nat
  mid : Nat
  high : Nat
  den : Nat
  closed : Bool

/-- The reals that round to `x`. Below a power of two the neighbours are half as far apart. -/
def rounding (x : Binary64) : Rounding :=
  let m := x.significand
  let narrow := m = Nat.pow 2 52 ∧ leastExponent < x.exponent
  let e := x.exponent - 2
  let unit := if 0 ≤ e then Nat.pow 2 e.toNat else 1
  { low := (if narrow then 4 * m - 1 else 4 * m - 2) * unit
    mid := 4 * m * unit
    high := (4 * m + 2) * unit
    den := if 0 ≤ e then 1 else Nat.pow 2 (-e).toNat
    closed := m % 2 = 0 }

def Rounding.holds (r : Rounding) (n : Nat) (k : Int) : Bool :=
  let (a, b) :=
    if 0 ≤ k then (n * Nat.pow 10 k.toNat * r.den, 1) else (n * r.den, Nat.pow 10 (-k).toNat)
  if r.closed then r.low * b ≤ a && a ≤ r.high * b else r.low * b < a && a < r.high * b

/-- The whole part of the number in units of `10 ^ k`, with the remainder and the size of the
unit in which it is counted. -/
def Rounding.inUnits (r : Rounding) (k : Int) : Nat × Nat × Nat :=
  let (n, d) :=
    if 0 ≤ k then (r.mid, r.den * Nat.pow 10 k.toNat) else (r.mid * Nat.pow 10 (-k).toNat, r.den)
  (n / d, n % d, d)

/-- The neighbour on the grid of multiples of `10 ^ k` that stands for the number, if one does:
the nearer of the two, the even one at a tie. -/
def Rounding.onGrid? (r : Rounding) (k : Int) : Option Nat :=
  let (n, rest, unit) := r.inUnits k
  match r.holds n k, r.holds (n + 1) k with
  | false, false => none
  | true, false => some n
  | false, true => some (n + 1)
  | true, true =>
    if 2 * rest < unit then some n
    else if unit < 2 * rest then some (n + 1)
    else some (if n % 2 = 0 then n else n + 1)

/-- The position of the leading decimal digit: the number lies between `10 ^ k` and
`10 ^ (k + 1)`. -/
def Rounding.leading (r : Rounding) : Int :=
  if r.den ≤ r.mid then ((digitsOf (r.mid / r.den)).length : Int) - 1
  else
    -- The reciprocal lies above one; `10 ^ k` is at most the number when the reciprocal is at
    -- most `10 ^ (-k)`.
    -((digitsOf ((r.den - 1) / r.mid)).length : Int)

/-- The first grid, from one digit on, with a decimal that stands for the number. -/
def Rounding.search (r : Rounding) (lead : Int) : Nat → Nat × Int
  | 0 => (r.mid / r.den, 0)
  | left + 1 =>
    let k := lead - (16 - left : Nat)
    match r.onGrid? k with
    | some n => (n, k)
    | none => r.search lead left

/-- Digits and a power of ten: the shortest decimal `n * 10 ^ k` that stands for a number other
than zero. Seventeen digits always do. -/
def shortest (x : Binary64) : Nat × Int :=
  let r := x.rounding
  r.search r.leading 17

/-- Takes the zeros off the end of a whole number into the power of ten. -/
def withoutZeros : Nat → Nat → Int → Nat × Int
  | 0, n, k => (n, k)
  | fuel + 1, n, k => if n % 10 = 0 ∧ n ≠ 0 then withoutZeros fuel (n / 10) (k + 1) else (n, k)

/-- The text of a binary64 number: its shortest digits, plain with at least one place when the
leading digit stands between positions -5 and 15, and scientific with a signed exponent
otherwise. -/
def toText (x : Binary64) : List Char :=
  let sign := if x.negative then ['-'] else []
  if x.significand = 0 then sign ++ ['0', '.', '0']
  else
    let (n, k) := withoutZeros 17 x.shortest.1 x.shortest.2
    let ds := digitsOf n
    let lead : Int := ds.length - 1 + k
    sign ++
      if lead < -5 || 15 < lead then
        Decimal.pointed 1 ds ++ 'e' :: (if lead < 0 then '-' else '+') :: digitsOf lead.natAbs
      else if 0 ≤ k then
        ds ++ List.replicate k.toNat '0' ++ ['.', '0']
      else if 0 ≤ lead then
        Decimal.pointed (lead.toNat + 1) ds
      else
        ['0', '.'] ++ List.replicate (-lead - 1).toNat '0' ++ ds

end SavedFilter.Binary64
