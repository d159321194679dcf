import SavedFilter.Operand

/-! # Values that are missing or not looked at

A lookup that takes a value has an operand only if the value is there and not blank, and then what
the text is read as; every other lookup has an operand of its own. -/
set_option autoImplicit false
namespace SavedFilter.Operand

variable {field : String} {lookup : Lookup} {raw : Option String} {operand : Operand}
  {cause : TermError} {read : String → Except TermError Operand}

theorem required_cases (lookup : Lookup) (raw : Option String) :
    required lookup raw = .error (.noValue lookup) ∨
      ∃ text, required lookup raw = .ok text ∧ Text.isBlankText text = false := by
  cases raw with
  | none => exact .inl rfl
  | some text =>
    rw [required]
    cases blank : Text.isBlankText text with
    | true => exact .inl rfl
    | false => exact .inr ⟨text, rfl, blank⟩

theorem required_bind_ok (h : required lookup raw >>= read = .ok operand) :
    ∃ text, Text.isBlankText text = false ∧ read text = .ok operand := by
  obtain missing | ⟨text, given, filled⟩ := required_cases lookup raw
  · rw [missing] at h
    cases h
  · rw [given] at h
    exact ⟨text, filled, h⟩

theorem required_bind_error (h : required lookup raw >>= read = .error cause) :
    cause = .noValue lookup ∨ ∃ text, read text = .error cause := by
  obtain missing | ⟨text, given, _⟩ := required_cases lookup raw
  · rw [missing] at h
    exact .inl (Except.error.inj h).symm
  · rw [given] at h
    exact .inr ⟨text, h⟩

theorem required_bind {value : String} (filled : Text.isBlankText value = false)
    (lookup : Lookup) (read : String → Except TermError Operand) :
    (required lookup (some value) >>= read) = read value := by
  rw [required, filled]
  rfl

/-- Null and truth checks have an operand of their own, whatever is given as value. -/
theorem parse_untaken (untaken : lookup.takesValue = false) (field : String) :
    ∃ operand, ∀ raw, parse field lookup raw = .ok operand := by
  cases lookup with
  | isNull | isTrue => exact ⟨_, fun _ => rfl⟩
  | isNotNull | isFalse => exact ⟨_, fun _ => rfl⟩
  | equals | contains | startsWith | endsWith | oneOf | onDate | dateRange | year | month | day
  | less | greater | atMost | atLeast => cases untaken

end SavedFilter.Operand
