import SavedFilter.Operand
import SavedFilter.Proofs.Date

/-! # Dates in records and in terms

In the years 0 to 9999 a date is written `DD/MM/YYYY` in a term. A record holds it like this as
well, or as `YYYY-MM-DD` with anything behind it: a time, a zone, more digits. All of these are read
as the date, `date?_slashedText` and `ofRecord?_of_writtenAs`. -/
set_option autoImplicit false
namespace SavedFilter.Date

def InFourDigits (d : Date) : Prop := 0 ≤ d.year ∧ d.year ≤ 9999

def slashed (d : Date) : List Char :=
  padded 2 d.day ++ '/' :: (padded 2 d.month ++ '/' :: padded 4 d.year.natAbs)

/-- A record holds the date with hyphens and anything behind it, or with slashes. -/
inductive WrittenAs (d : Date) : List Char → Prop where
  | hyphens (more : List Char) : WrittenAs d (d.toText ++ more)
  | slashes : WrittenAs d d.slashed

variable {d : Date}

/-! ## The characters of a date -/

/-- Digits and the marks between them: no blanks, and one byte each. -/
def IsDateChar (c : Char) : Prop := c.isDigit ∨ c = '-' ∨ c = '/'

theorem IsDateChar.isBlank {c : Char} (h : IsDateChar c) : Text.isBlank c = false := by
  obtain digit | rfl | rfl := h
  · exact Text.isBlank_of_isDigit digit
  · rfl
  · rfl

theorem IsDateChar.utf8Size {c : Char} (h : IsDateChar c) : c.utf8Size = 1 := by
  obtain digit | rfl | rfl := h
  · simp only [Char.isDigit, Bool.and_eq_true, decide_eq_true_eq] at digit
    have high : c.val ≤ 57 := digit.2
    have small : c.val ≤ 0x7f := UInt32.le_trans high (by decide)
    simp [Char.utf8Size, small]
  · rfl
  · rfl

theorem isDateChar_padded {width n : Nat} {c : Char} (member : c ∈ padded width n) :
    IsDateChar c := .inl (areDigits_padded width n c member)

theorem yearText_eq (four : d.InFourDigits) : yearText d.year = padded 4 d.year.natAbs := by
  rw [yearText, if_neg (by have := four.1; omega), if_neg (by have := four.2; omega)]
  rfl

theorem isDateChar_toText (four : d.InFourDigits) {c : Char} (member : c ∈ d.toText) :
    IsDateChar c := by
  rw [toText_eq, yearText_eq four] at member
  simp only [List.mem_append, List.mem_cons] at member
  obtain year | rfl | month | rfl | day := member
  · exact isDateChar_padded year
  · exact .inr (.inl rfl)
  · exact isDateChar_padded month
  · exact .inr (.inl rfl)
  · exact isDateChar_padded day

theorem isDateChar_slashed {c : Char} (member : c ∈ d.slashed) : IsDateChar c := by
  simp only [slashed, List.mem_append, List.mem_cons] at member
  obtain day | rfl | month | rfl | year := member
  · exact isDateChar_padded day
  · exact .inr (.inr rfl)
  · exact isDateChar_padded month
  · exact .inr (.inr rfl)
  · exact isDateChar_padded year

theorem length_year (four : d.InFourDigits) : (padded 4 d.year.natAbs).length = 4 := by
  have ⟨first, last⟩ := four
  exact length_padded (by decide) (by omega)

theorem length_month (d : Date) : (padded 2 d.month).length = 2 :=
  length_padded (by decide) (month_lt d.isDay)

theorem length_day (d : Date) : (padded 2 d.day).length = 2 :=
  length_padded (by decide) (day_lt d.isDay)

theorem length_toText (four : d.InFourDigits) : d.toText.length = 10 := by
  simp [toText_eq, yearText_eq four, length_year four, length_month, length_day]

theorem length_slashed (four : d.InFourDigits) : d.slashed.length = 10 := by
  simp [slashed, length_year four, length_month, length_day]

/-! ## Dates with hyphens -/

/-- The date is read off the front, whatever stands behind it. -/
theorem frontYearMonthDay_toText (d : Date) (more : List Char) :
    frontYearMonthDay (d.toText ++ more) = some (d, more) := by
  have year := yearNumber_hyphen d.year (padded 2 d.month ++ ('-' :: (padded 2 d.day ++ more)))
  have month := twoDigits_padded (month_lt d.isDay) ('-' :: (padded 2 d.day ++ more))
  have day := twoDigits_padded (day_lt d.isDay) more
  have text : d.toText ++ more = yearText d.year ++
      '-' :: (padded 2 d.month ++ '-' :: (padded 2 d.day ++ more)) := by
    simp [toText_eq]
  simp only [frontYearMonthDay, text, year, month, day, mark, if_true, Option.bind_eq_bind,
    Option.bind_some, of?_eq_some]
  rfl

theorem ofYearMonthDay?_toText (d : Date) : ofYearMonthDay? d.toText = some d := by
  have front := frontYearMonthDay_toText d []
  rw [List.append_nil] at front
  rw [ofYearMonthDay?, front]
  rfl

/-- A longer text is no date by itself. -/
theorem ofYearMonthDay?_of_front {cs more : List Char}
    (front : frontYearMonthDay cs = some (d, more)) :
    ofYearMonthDay? cs = none ∨ ofYearMonthDay? cs = some d := by
  rw [ofYearMonthDay?, front]
  cases more with
  | nil => exact .inr rfl
  | cons c more => exact .inl rfl

/-- A timestamp has the date at its front. -/
theorem ofTimestamp?_of_front {cs more : List Char}
    (front : frontYearMonthDay cs = some (d, more)) :
    ofTimestamp? cs = none ∨ ofTimestamp? cs = some d := by
  cases read : ofTimestamp? cs with
  | none => exact .inl rfl
  | some d' =>
    simp only [ofTimestamp?, front, Option.bind_eq_bind, Option.bind_some,
      Option.bind_eq_some_iff] at read
    obtain ⟨_, _, _, _, _, _, _, _, _, _, _, _, read⟩ := read
    split at read
    · cases read
      exact .inr rfl
    · cases read

theorem firstTenBytes?_append {cs : List Char} (bytes : ∀ c ∈ cs, c.utf8Size = 1)
    (more : List Char) : firstTenBytes? cs.length (cs ++ more) = some cs := by
  induction cs with
  | nil => rw [List.length_nil, firstTenBytes?]
  | cons c cs ih =>
    have one : c.utf8Size = 1 := bytes c List.mem_cons_self
    have others := ih fun other member => bytes other (List.mem_cons_of_mem c member)
    simp [firstTenBytes?, one, others]

theorem firstTenBytes?_toText (four : d.InFourDigits) (more : List Char) :
    firstTenBytes? 10 (d.toText ++ more) = some d.toText := by
  have ten := firstTenBytes?_append (fun c member => (isDateChar_toText four member).utf8Size) more
  rwa [length_toText four] at ten

/-! ## Dates with slashes -/

/-- The digits up to the first slash are read as a year, but no hyphen follows. -/
theorem frontYearMonthDay_slashed (d : Date) : frontYearMonthDay d.slashed = none := by
  have four : (padded 2 d.day).length ≤ 4 := by
    rw [length_day]
    decide
  have year (rest : List Char) : yearNumber (padded 2 d.day ++ '/' :: rest) =
      some ((valueOf (padded 2 d.day) : Int), '/' :: rest) := by
    apply (areDigits_padded 2 d.day).yearNumber_append (padded_ne_nil 2 d.day) four
    rintro _ ⟨⟩
    rfl
  have noHyphen (rest : List Char) : mark '-' ('/' :: rest) = none := rfl
  simp only [frontYearMonthDay, slashed, year, noHyphen, Option.bind_eq_bind, Option.bind_some,
    Option.bind_none]

theorem ofDayMonthYear?_slashed (four : d.InFourDigits) : ofDayMonthYear? d.slashed = some d := by
  have day := twoDigits_padded (day_lt d.isDay)
    ('/' :: (padded 2 d.month ++ '/' :: padded 4 d.year.natAbs))
  have month := twoDigits_padded (month_lt d.isDay) ('/' :: padded 4 d.year.natAbs)
  have year : yearNumber (padded 4 d.year.natAbs) = some (d.year, []) := by
    rw [← yearText_eq four, ← (yearText d.year).append_nil]
    exact yearNumber_yearText d.year (by simp)
  simp only [ofDayMonthYear?, slashed, day, month, year, mark, if_true, Option.bind_eq_bind,
    Option.bind_some, List.isEmpty_nil, of?_eq_some]

theorem slashed_ne_nil (d : Date) : d.slashed ≠ [] :=
  List.append_ne_nil_of_left_ne_nil (padded_ne_nil 2 d.day) _

theorem shown_slashed (d : Date) : ∀ c ∈ d.slashed, Text.isBlank c = false :=
  fun _ member => (isDateChar_slashed member).isBlank

theorem trim_slashed (d : Date) : Text.trim d.slashed = d.slashed :=
  Text.trim_shown d.shown_slashed d.slashed_ne_nil

/-! ## What is read -/

/-- A record's date is read, whatever stands behind it: as a date or a timestamp if it is one, and
else off the first ten bytes. -/
theorem ofRecord?_of_writtenAs (four : d.InFourDigits) {cs : List Char} (written : d.WrittenAs cs) :
    ofRecord? cs = some d := by
  cases written with
  | hyphens more =>
    have someChar : d.toText ≠ [] := by
      intro empty
      have ten := length_toText four
      rw [empty] at ten
      cases ten
    have trimmed : Text.trim (d.toText ++ more) = d.toText ++ Text.trimEnd more :=
      Text.trim_append (fun _ member => (isDateChar_toText four member).isBlank) someChar more
    have front := frontYearMonthDay_toText d (Text.trimEnd more)
    have bytes := firstTenBytes?_toText four (Text.trimEnd more)
    rw [ofRecord?, trimmed]
    simp only [bytes, Option.bind_some, ofYearMonthDay?_toText, Option.some_or]
    obtain date | date := ofYearMonthDay?_of_front front <;>
      obtain time | time := ofTimestamp?_of_front front <;> rw [date, time] <;> rfl
  | slashes =>
    have noFront := frontYearMonthDay_slashed d
    have noDate : ofYearMonthDay? d.slashed = none := by
      rw [ofYearMonthDay?, noFront]
      rfl
    have noTime : ofTimestamp? d.slashed = none := by
      rw [ofTimestamp?, noFront]
      rfl
    have bytes := firstTenBytes?_append
      (fun c (member : c ∈ d.slashed) => (isDateChar_slashed member).utf8Size) []
    rw [List.append_nil, length_slashed four] at bytes
    simp only [ofRecord?, trim_slashed, noDate, noTime, bytes, Option.bind_some, Option.none_or]
    exact ofDayMonthYear?_slashed four

def slashedText (d : Date) : String := String.ofList d.slashed

theorem date?_slashedText (four : d.InFourDigits) : Operand.date? d.slashedText = some d := by
  rw [Operand.date?, slashedText, String.toList_ofList, trim_slashed]
  exact ofDayMonthYear?_slashed four

end SavedFilter.Date
