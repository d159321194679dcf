import SavedFilter.Number.Digits

/-! # Decimal numbers

A decimal number is a whole coefficient with a count of fraction places, so `1.50` and `1.5` are
two representations of one number. Texts keep the places they are written with; comparison is of
numbers. It never builds a power of ten larger than the coefficients are long, because the
positions of the leading digits are compared first. -/
set_option autoImplicit false
namespace SavedFilter

/-- The number `coefficient * 10 ^ (-scale)`. -/
structure Decimal where
  coefficient : Int
  scale : Int64
deriving DecidableEq

namespace Decimal

def ofInt (n : Int) : Decimal := ⟨n, 0⟩

/-- Digits with underscores among them, but not in front. -/
def spacedDigits? (cs : List Char) : Option Nat :=
  match cs with
  | [] => none
  | c :: rest =>
    if c.isDigit && rest.all (fun d => d.isDigit || d == '_') then
      some (valueOf (cs.filter (· != '_')))
    else none

/-- Digits with underscores among them and at most one sign in front. -/
def coefficient? : List Char → Option Int
  | '-' :: cs => (spacedDigits? cs).map fun n => -(n : Int)
  | '+' :: cs => (spacedDigits? cs).map fun n => (n : Int)
  | cs => (spacedDigits? cs).map fun n => (n : Int)

/-- The whole number after an exponent mark; no text at all stands for zero. -/
def exponent? : List Char → Option Int
  | [] => some 0
  | _ :: cs => integer? cs

/-- Reads a decimal number: digits with an optional point among them, an optional sign in front
and an optional exponent behind. The places are the digits after the point less the
exponent, and must fit 64 bits. -/
def ofText? (cs : List Char) : Option Decimal := do
  let isMark := fun c : Char => c == 'e' || c == 'E'
  let base := cs.takeWhile (!isMark ·)
  let exponent ← exponent? (cs.dropWhile (!isMark ·))
  let lead := base.takeWhile (· != '.')
  let trail := (base.dropWhile (· != '.')).drop 1
  let coefficient ← coefficient? (lead ++ trail)
  let places := (trail.filter (· != '_')).length
  let scale ← int64? (places - exponent)
  return ⟨coefficient, scale⟩

def pointed (n : Nat) (ds : List Char) : List Char :=
  if n < ds.length then ds.take n ++ '.' :: ds.drop n else ds

/-- The digits of a positive coefficient placed by the scale: scientific with `E` when more than
five zeros would stand between the point and the first digit, the bare digits with `e+` when
more than fifteen zeros would follow them, and plain otherwise. -/
def magnitudeText (ds : List Char) (scale : Int) : List Char :=
  if scale > ds.length + 5 then
    pointed 1 ds ++ ['E', '-'] ++ digitsOf (scale - ds.length + 1).toNat
  else if -scale > 15 then
    ds ++ ['e', '+'] ++ digitsOf (-scale).toNat
  else if scale ≤ 0 then
    ds ++ List.replicate (-scale).toNat '0'
  else if scale < ds.length then
    pointed (ds.length - scale.toNat) ds
  else
    ['0', '.'] ++ List.replicate (scale.toNat - ds.length) '0' ++ ds

/-- The text of a decimal number; zero has neither places nor sign. -/
def toText (d : Decimal) : List Char :=
  if d.coefficient = 0 then ['0']
  else
    let sign := if d.coefficient < 0 then ['-'] else []
    sign ++ magnitudeText (digitsOf d.coefficient.natAbs) d.scale.toInt

instance : ToString Decimal := ⟨fun d => String.ofList d.toText⟩

/-- Compares `m * 10 ^ (-s)` with `m' * 10 ^ (-s')` for positive `m` and `m'`. -/
def compareMagnitude (m : Nat) (s : Int) (m' : Nat) (s' : Int) : Ordering :=
  let lead := (digitsOf m).length - s
  let lead' := (digitsOf m').length - s'
  (compare lead lead').then
    (if s ≤ s' then compare (m * Nat.pow 10 (s' - s).toNat) m'
     else compare m (m' * Nat.pow 10 (s - s').toNat))

def compare (a b : Decimal) : Ordering :=
  (Ord.compare a.coefficient.sign b.coefficient.sign).then
    (if a.coefficient = 0 then .eq
     else if 0 < a.coefficient then
       compareMagnitude a.coefficient.natAbs a.scale.toInt b.coefficient.natAbs b.scale.toInt
     else
       compareMagnitude b.coefficient.natAbs b.scale.toInt a.coefficient.natAbs a.scale.toInt)

end Decimal
end SavedFilter
