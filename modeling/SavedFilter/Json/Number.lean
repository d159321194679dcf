import SavedFilter.Json.Basic

/-! # Number literals

The written form of a number in JSON. A literal without point and exponent that fits 64 bits,
signed or unsigned, is a whole number; the literal `-0` is not. Any other literal is a binary64
number: its digits are gathered into 64 bits as long as they fit, and the rest of the whole part
only moves the exponent. -/
set_option autoImplicit false
namespace SavedFilter

/-- A number as written: sign, whole digits, the digits after a point, and an exponent. -/
structure NumberLiteral where
  negative : Bool
  whole : List Char
  fraction : Option (List Char)
  exponent : Option Int

namespace NumberLiteral

def exponentPart? : List Char → Option (Option Int)
  | [] => some none
  | c :: cs => if c = 'e' ∨ c = 'E' then (integer? cs).map some else none

def tail? : List Char → Option (Option (List Char) × Option Int)
  | '.' :: cs =>
    let ds := cs.takeWhile Char.isDigit
    if ds.isEmpty then none
    else (exponentPart? (cs.dropWhile Char.isDigit)).map fun e => (some ds, e)
  | cs => (exponentPart? cs).map fun e => (none, e)

/-- Reads a number: the whole part has at least one digit, and no zero in front of others. -/
def ofText? (cs : List Char) : Option NumberLiteral :=
  let negative := cs.head? = some '-'
  let cs := if negative then cs.tail else cs
  let ds := cs.takeWhile Char.isDigit
  if ds.isEmpty || (ds.head? == some '0' && 1 < ds.length) then none
  else (tail? (cs.dropWhile Char.isDigit)).map fun (f, e) => ⟨negative, ds, f, e⟩

/-- The whole number of a literal that is one: within 64 bits, and not the negative zero. -/
def integer? (l : NumberLiteral) : Option Int :=
  match l.fraction, l.exponent with
  | none, none =>
    let n := valueOf l.whole
    if l.negative then if 0 < n ∧ n ≤ Nat.pow 2 63 then some (-(n : Int)) else none
    else if n < UInt64.size then some n else none
  | _, _ => none

/-- Appends digits to a number while it fits 64 bits, and counts the digits left over. -/
def gather (n : Nat) : List Char → Nat × Nat
  | [] => (n, 0)
  | d :: ds =>
    let next := 10 * n + (d.toNat - '0'.toNat)
    if next < UInt64.size then gather next ds else (n, ds.length + 1)

/-- The binary64 number of a literal; `none` past the largest finite number. -/
def float? (l : NumberLiteral) : Option Binary64 :=
  let (n, left) := gather 0 l.whole
  let ds := l.fraction.getD []
  let (n, dropped) := gather n ds
  let places : Int := ds.length - dropped
  Binary64.ofScaled? l.negative n (left - places + l.exponent.getD 0)

def value? (l : NumberLiteral) : Option Json :=
  match l.integer? with
  | some n => some (.integer n)
  | none => l.float?.map .float

end NumberLiteral
end SavedFilter
