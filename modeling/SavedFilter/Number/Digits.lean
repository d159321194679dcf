/-! # Whole numbers in decimal digits

Reading and writing whole numbers in ASCII digits, and the passage to 64 bits with a refusal
instead of a wrap. -/
set_option autoImplicit false
namespace SavedFilter

def digitsOf (n : Nat) : List Char := Nat.toDigits 10 n

def valueOf (ds : List Char) : Nat := Nat.ofDigitChars 10 ds 0

def natural? (cs : List Char) : Option Nat :=
  if cs.isEmpty || cs.any (!·.isDigit) then none else some (valueOf cs)

/-- At least one digit, with at most one sign in front. -/
def integer? : List Char → Option Int
  | '-' :: cs => (natural? cs).map fun n => -(n : Int)
  | '+' :: cs => (natural? cs).map fun n => (n : Int)
  | cs => (natural? cs).map fun n => (n : Int)

def int64? (n : Int) : Option Int64 :=
  if h : Int64.minValue.toInt ≤ n ∧ n ≤ Int64.maxValue.toInt then some (Int64.ofIntLE n h.1 h.2)
  else none

theorem toInt_of_int64? {n : Int} {w : Int64} (h : int64? n = some w) : w.toInt = n := by
  unfold int64? at h
  split at h
  · cases h
    exact Int64.toInt_ofIntLE
  · cases h

theorem int64?_toInt (w : Int64) : int64? w.toInt = some w := by
  rw [int64?, dif_pos ⟨w.minValue_le_toInt, w.toInt_le⟩, Int64.ofIntLE_toInt]

end SavedFilter
