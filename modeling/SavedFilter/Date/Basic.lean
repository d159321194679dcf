/-! # Calendar dates

Days of the proleptic Gregorian calendar, in years from -262143 to 262142. A date carries the
proof that its day exists, so no operation meets an impossible day. Dates are ordered by year,
then month, then day. -/
set_option autoImplicit false
namespace SavedFilter

namespace Date

def firstYear : Int := -262143

def lastYear : Int := 262142

def isLeap (year : Int) : Bool := year % 4 = 0 && (year % 100 ≠ 0 || year % 400 = 0)

def daysIn (year : Int) (month : Nat) : Nat :=
  match month with
  | 2 => if isLeap year then 29 else 28
  | 4 | 6 | 9 | 11 => 30
  | _ => 31

def Exists (year : Int) (month day : Nat) : Prop :=
  (firstYear ≤ year ∧ year ≤ lastYear) ∧ (1 ≤ month ∧ month ≤ 12) ∧
    (1 ≤ day ∧ day ≤ daysIn year month)

instance (year : Int) (month day : Nat) : Decidable (Exists year month day) :=
  inferInstanceAs (Decidable (_ ∧ _ ∧ _))

end Date

structure Date where
  year : Int
  month : Nat
  day : Nat
  isDay : Date.Exists year month day
deriving DecidableEq

namespace Date

def of? (year : Int) (month day : Nat) : Option Date :=
  if h : Exists year month day then some ⟨year, month, day, h⟩ else none

def compare (a b : Date) : Ordering :=
  (Ord.compare a.year b.year).then
    ((Ord.compare a.month b.month).then (Ord.compare a.day b.day))

theorem of?_eq_some {d : Date} : of? d.year d.month d.day = some d := by
  simp [of?, d.isDay]

end Date
end SavedFilter
