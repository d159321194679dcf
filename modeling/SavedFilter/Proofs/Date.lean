import SavedFilter.Date.Text
import SavedFilter.Proofs.Number.Decimal
import SavedFilter.Proofs.Text.Blank

/-! # Dates are read back from their text

The text of a date is read as the date, in every year of the calendar: four digits without a sign,
and more digits, or a year before year zero, behind a sign, `ofStored?_toText`. -/
set_option autoImplicit false
namespace SavedFilter

/-! ## Digits of a date -/

namespace AreDigits

variable {ds : List Char}

theorem shown (digits : AreDigits ds) : ∀ c ∈ ds, Text.isBlank c = false :=
  fun c member => Text.isBlank_of_isDigit (digits c member)

theorem append_ne_cons (digits : AreDigits ds) (someDigit : ds ≠ []) {other : Char}
    (noDigit : other.isDigit = false) (rest more : List Char) : ds ++ rest ≠ other :: more := by
  obtain ⟨c, ds, rfl⟩ := List.exists_cons_of_ne_nil someDigit
  intro same
  exact digits.ne_of_mem List.mem_cons_self noDigit (List.cons.inj same).1

/-- Digits are read up to a character that is none, or until there are as many as may be read. -/
theorem digits_append (digits : AreDigits ds) (someDigit : ds ≠ []) {width : Nat}
    (fits : ds.length ≤ width) {rest : List Char}
    (stops : ds.length < width → ∀ c, rest.head? = some c → c.isDigit = false) :
    Date.digits width (ds ++ rest) = some (valueOf ds, rest) := by
  have noneBehind : (rest.take (width - ds.length)).takeWhile Char.isDigit = [] := by
    cases rest with
    | nil => simp
    | cons c rest =>
      cases room : width - ds.length with
      | zero => rfl
      | succ n => simp [stops (by omega) c rfl]
  have taken : ((ds ++ rest).take width).takeWhile Char.isDigit = ds := by
    rw [List.take_append, List.take_of_length_le fits, List.takeWhile_append_of_pos digits,
      noneBehind, List.append_nil]
  rw [Date.digits, taken]
  simp [someDigit]

/-- A year without a sign. -/
theorem yearNumber_append (digits : AreDigits ds) (someDigit : ds ≠ []) (four : ds.length ≤ 4)
    {rest : List Char} (stops : ∀ c, rest.head? = some c → c.isDigit = false) :
    Date.yearNumber (ds ++ rest) = some ((valueOf ds : Int), rest) := by
  rw [Date.yearNumber, Text.trimStart_shown digits.shown someDigit]
  split
  · rename_i signed
    exact absurd signed (digits.append_ne_cons someDigit rfl rest _)
  · rename_i signed
    exact absurd signed (digits.append_ne_cons someDigit rfl rest _)
  · rw [digits.digits_append someDigit four fun _ => stops]
    rfl

theorem integer?_eq (digits : AreDigits ds) (someDigit : ds ≠ []) :
    integer? ds = some (valueOf ds : Int) := by
  have noSign {sign : Char} (noDigit : sign.isDigit = false) (more : List Char) :
      ds ≠ sign :: more := by
    simpa using digits.append_ne_cons someDigit noDigit [] more
  rw [integer?.eq_def]
  split
  · exact absurd rfl (noSign rfl _)
  · exact absurd rfl (noSign rfl _)
  · rw [digits.natural?_eq someDigit]
    rfl

end AreDigits

namespace Date

theorem areDigits_padded (width n : Nat) : AreDigits (padded width n) :=
  (areDigits_zeros _).append (areDigits_digitsOf n)

theorem padded_ne_nil (width n : Nat) : padded width n ≠ [] :=
  List.append_ne_nil_of_right_ne_nil _ (digitsOf_ne_nil n)

theorem valueOf_padded (width n : Nat) : valueOf (padded width n) = n := by
  rw [padded, valueOf_zeros_append, valueOf_digitsOf]

theorem length_padded {width n : Nat} (positive : 0 < width) (small : n < 10 ^ width) :
    (padded width n).length = width := by
  have fits : (digitsOf n).length ≤ width :=
    (Nat.length_toDigits_le_iff (by decide) positive).mpr small
  rw [padded, List.length_append, List.length_replicate]
  omega

/-! ## The parts of a date -/

theorem twoDigits_padded {n : Nat} (small : n < 100) (rest : List Char) :
    twoDigits (padded 2 n ++ rest) = some (n, rest) := by
  have digits := areDigits_padded 2 n
  have two : (padded 2 n).length = 2 := length_padded (by decide) small
  rw [twoDigits, Text.trimStart_shown digits.shown (padded_ne_nil 2 n),
    digits.digits_append (padded_ne_nil 2 n) two.le fun fewer => absurd two fewer.ne,
    valueOf_padded]

def yearText (year : Int) : List Char :=
  (if year < 0 then ['-'] else if 9999 < year then ['+'] else []) ++ padded 4 year.natAbs

theorem yearNumber_yearText (year : Int) {rest : List Char}
    (stops : ∀ c, rest.head? = some c → c.isDigit = false) :
    yearNumber (yearText year ++ rest) = some (year, rest) := by
  have digits := areDigits_padded 4 year.natAbs
  have someDigit := padded_ne_nil 4 year.natAbs
  have anyNumber : Date.digits (padded 4 year.natAbs ++ rest).length
      (padded 4 year.natAbs ++ rest) = some (year.natAbs, rest) := by
    rw [digits.digits_append someDigit (by simp) fun _ => stops, valueOf_padded]
  rw [yearText]
  split_ifs with before after
  · rw [List.singleton_append, List.cons_append, yearNumber, Text.trimStart_cons rfl]
    simp only [anyNumber, Option.map_some]
    congr 2
    omega
  · rw [List.singleton_append, List.cons_append, yearNumber, Text.trimStart_cons rfl]
    simp only [anyNumber, Option.map_some]
    congr 2
    omega
  · have four : (padded 4 year.natAbs).length = 4 :=
      length_padded (by decide) (by omega)
    rw [List.nil_append, digits.yearNumber_append someDigit four.le stops, valueOf_padded]
    congr 2
    omega

theorem day_lt {year : Int} {month day : Nat} (existsDay : Exists year month day) :
    day < 100 := by
  have longest : daysIn year month ≤ 31 := by
    rw [daysIn.eq_def]
    split
    · split <;> decide
    all_goals decide
  have within := existsDay.2.2.2
  omega

theorem month_lt {year : Int} {month day : Nat} (existsDay : Exists year month day) :
    month < 100 := by
  have last := existsDay.2.1.2
  omega

theorem toText_eq (d : Date) :
    d.toText = yearText d.year ++ '-' :: (padded 2 d.month ++ '-' :: padded 2 d.day) := by
  simp [toText, yearText]

theorem yearNumber_hyphen (year : Int) (rest : List Char) :
    yearNumber (yearText year ++ '-' :: rest) = some (year, '-' :: rest) := by
  apply yearNumber_yearText
  rintro _ ⟨⟩
  rfl

theorem ofStored?_toText (d : Date) : ofStored? d.toText = some d := by
  have month := twoDigits_padded (month_lt d.isDay) ('-' :: padded 2 d.day)
  have day := twoDigits_padded (day_lt d.isDay) []
  rw [List.append_nil] at day
  have unblank (rest : List Char) : Text.trimStart ('-' :: rest) = '-' :: rest :=
    Text.trimStart_cons rfl rest
  simp only [ofStored?, toText_eq, yearNumber_hyphen, month, day, unblank, mark,
    Option.bind_eq_bind, Option.bind_some, if_true]
  simp [Text.trimStart, of?_eq_some]

end Date
end SavedFilter
