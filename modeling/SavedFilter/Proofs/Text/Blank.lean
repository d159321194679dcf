import SavedFilter.Text.Blank

/-! # Trimming around a text without blanks

Nothing of a text without blanks is trimmed: in front of it and behind it only the blanks around it
are. Digits are no blanks. -/
set_option autoImplicit false
namespace SavedFilter.Text

variable {cs : List Char}

theorem isBlank_of_isDigit {c : Char} (digit : c.isDigit) : isBlank c = false := by
  simp only [Char.isDigit, Bool.and_eq_true, decide_eq_true_eq] at digit
  have low : 48 ≤ c.toNat := digit.1
  have high : c.toNat ≤ 57 := digit.2
  simp only [isBlank, Bool.or_eq_false_iff, Bool.and_eq_false_iff, decide_eq_false_iff_not,
    beq_eq_false_iff_ne]
  omega

theorem trimStart_append {blanks : List Char} (blank : ∀ c ∈ blanks, isBlank c) (cs : List Char) :
    trimStart (blanks ++ cs) = trimStart cs :=
  List.dropWhile_append_of_pos blank

/-- Nothing is trimmed off a text that does not begin with a blank. -/
theorem trimStart_cons {c : Char} (shown : isBlank c = false) (cs : List Char) :
    trimStart (c :: cs) = c :: cs :=
  List.dropWhile_cons_of_neg (by simp [shown])

theorem trimStart_shown (shown : ∀ c ∈ cs, isBlank c = false) (someChar : cs ≠ [])
    (more : List Char) : trimStart (cs ++ more) = cs ++ more := by
  obtain ⟨c, cs, rfl⟩ := List.exists_cons_of_ne_nil someChar
  exact trimStart_cons (shown c List.mem_cons_self) _

theorem trimEnd_shown (shown : ∀ c ∈ cs, isBlank c = false) (someChar : cs ≠ [])
    (more : List Char) : trimEnd (cs ++ more) = cs ++ trimEnd more := by
  have kept : cs.reverse.dropWhile isBlank = cs.reverse := by
    have shown' : ∀ c ∈ cs.reverse, isBlank c = false := by simpa using shown
    have first := trimStart_shown shown' (by simpa using someChar) []
    rwa [List.append_nil] at first
  rw [trimEnd, List.reverse_append, List.dropWhile_append, kept]
  by_cases noneLeft : more.reverse.dropWhile isBlank = []
  · simp [noneLeft, trimEnd]
  · simp [noneLeft, trimEnd]

/-- What stands behind the text is trimmed at its end. -/
theorem trim_append (shown : ∀ c ∈ cs, isBlank c = false) (someChar : cs ≠ [])
    (more : List Char) : trim (cs ++ more) = cs ++ trimEnd more := by
  rw [trim, trimStart_shown shown someChar, trimEnd_shown shown someChar]

theorem trim_shown (shown : ∀ c ∈ cs, isBlank c = false) (someChar : cs ≠ []) :
    trim cs = cs := by
  have alone := trim_append shown someChar []
  rw [List.append_nil] at alone
  rw [alone]
  exact List.append_nil cs

theorem isBlankText_append (shown : ∀ c ∈ cs, isBlank c = false) (someChar : cs ≠ [])
    (more : List Char) : isBlankText (String.ofList (cs ++ more)) = false := by
  rw [isBlankText, String.toList_ofList, trim_append shown someChar]
  simp [someChar]

theorem isBlankText_shown (shown : ∀ c ∈ cs, isBlank c = false) (someChar : cs ≠ []) :
    isBlankText (String.ofList cs) = false := by
  have filled := isBlankText_append shown someChar []
  rwa [List.append_nil] at filled

theorem trim_blanks_append {blanks : List Char} (blank : ∀ c ∈ blanks, isBlank c)
    (shown : ∀ c ∈ cs, isBlank c = false) (someChar : cs ≠ []) : trim (blanks ++ cs) = cs := by
  rw [trim, trimStart_append blank]
  exact trim_shown shown someChar

end SavedFilter.Text
