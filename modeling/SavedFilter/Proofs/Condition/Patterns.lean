import SavedFilter.Proofs.Condition.Reach
import SavedFilter.Proofs.Text.Case

/-! # Text patterns and letter case

A pattern lookup lowers the text of a record and the value of the term, each by itself, and looks
for the one in the other. A text that has the value in it satisfies the lookup when the capital
sigmas of the value end words there as they do in the value, `pattern_answer`. Without that it may
fail: a word that ends in a capital sigma is not found at the front of a longer word,
`pattern_answer_signpost`. -/
set_option autoImplicit false
namespace SavedFilter

open Text

def Lookup.isPattern : Lookup → Bool
  | contains | startsWith | endsWith => true
  | _ => false

theorem Lookup.eq_of_isPattern {lookup : Lookup} (pattern : lookup.isPattern) :
    lookup = contains ∨ lookup = startsWith ∨ lookup = endsWith := by
  cases lookup with
  | contains => exact .inl rfl
  | startsWith => exact .inr (.inl rfl)
  | endsWith => exact .inr (.inr rfl)
  | equals | oneOf | onDate | dateRange | year | month | day | isNull | isNotNull | isTrue
  | isFalse | less | greater | atMost | atLeast => cases pattern

section Answers

variable {lookup : Lookup} {field value t : String} {record : Json}

theorem Operand.parse_pattern (pattern : lookup.isPattern) (filled : isBlankText value = false) :
    parse field lookup (some value) = .ok (.scalar (.string value)) := by
  obtain rfl | rfl | rfl := Lookup.eq_of_isPattern pattern <;>
  · rw [parse, required_bind filled]
    rfl

theorem Lookup.holdsOf_string (pattern : lookup.isPattern) (t value : String) :
    lookup.holdsOf (.string t) (.string value) =
      lookup.matchesText (lower t.toList) (lower value.toList) := by
  obtain rfl | rfl | rfl := Lookup.eq_of_isPattern pattern <;> rfl

namespace Json

theorem answer_pattern (pattern : lookup.isPattern) (filled : isBlankText value = false) :
    record.answer field lookup value =
      .ok ((record.resolve field).any (lookup.holdsOf · (.string value))) := by
  have noNullCheck : lookup ≠ .isNull ∧ lookup ≠ .isNotNull := by
    obtain rfl | rfl | rfl := Lookup.eq_of_isPattern pattern <;> decide
  rw [answer_of_parse (Operand.parse_pattern pattern filled),
    Operand.holdsOf_scalar noNullCheck]

/-- Any text that the path reaches satisfies the lookup for the record. -/
theorem answer_of_matchesText (pattern : lookup.isPattern) (filled : isBlankText value = false)
    (reached : string t ∈ record.resolve field)
    (found : lookup.matchesText (lower t.toList) (lower value.toList)) :
    record.answer field lookup value = .ok true := by
  have satisfied : (record.resolve field).any (lookup.holdsOf · (.string value)) = true := by
    rw [List.any_eq_true]
    refine ⟨string t, reached, ?_⟩
    rwa [Lookup.holdsOf_string pattern]
  rw [answer_pattern pattern filled, satisfied]

theorem matchesText_of_answer (pattern : lookup.isPattern) (filled : isBlankText value = false)
    (only : record.resolve field = [string t])
    (satisfied : record.answer field lookup value = .ok true) :
    lookup.matchesText (lower t.toList) (lower value.toList) = true := by
  rw [answer_pattern pattern filled, only] at satisfied
  have found := Except.ok.inj satisfied
  rwa [List.any_cons, List.any_nil, Bool.or_false, Lookup.holdsOf_string pattern] at found

/-- A text that has the value in it, in front or at the end satisfies the lookup when each capital
sigma of the value ends a word there if and only if it ends one in the value. For the front and the
end this is needed as well, unless the path reaches other texts. -/
theorem pattern_answer (filled : isBlankText value = false)
    (reached : string t ∈ record.resolve field) :
    (∀ front back, t.toList = front ++ value.toList ++ back →
      SigmasAgree front.reverse back value.toList →
      record.answer field .contains value = .ok true) ∧
    (∀ back, t.toList = value.toList ++ back →
      (SigmasAgree [] back value.toList → record.answer field .startsWith value = .ok true) ∧
      (record.resolve field = [string t] → record.answer field .startsWith value = .ok true →
        SigmasAgree [] back value.toList)) ∧
    ∀ front, t.toList = front ++ value.toList →
      (SigmasAgree front.reverse [] value.toList →
        record.answer field .endsWith value = .ok true) ∧
      (record.resolve field = [string t] → record.answer field .endsWith value = .ok true →
        SigmasAgree front.reverse [] value.toList) := by
  refine ⟨?_, ?_, ?_⟩
  · intro front back whole agree
    apply answer_of_matchesText rfl filled reached
    rw [whole, Lookup.matchesText, contains_iff_infix]
    · exact infix_of_sigmasAgree agree
    · exact nofun
    · exact nofun
  · intro back whole
    have foundIff : Lookup.startsWith.matchesText (lower t.toList) (lower value.toList) = true ↔
        SigmasAgree [] back value.toList := by
      rw [whole, ← lower_prefix_iff]
      exact List.isPrefixOf_iff_prefix
    refine ⟨fun agree => ?_, fun only satisfied => ?_⟩
    · exact answer_of_matchesText rfl filled reached (foundIff.mpr agree)
    · exact foundIff.mp (matchesText_of_answer rfl filled only satisfied)
  · intro front whole
    have foundIff : Lookup.endsWith.matchesText (lower t.toList) (lower value.toList) = true ↔
        SigmasAgree front.reverse [] value.toList := by
      rw [whole, ← lower_suffix_iff]
      exact List.isSuffixOf_iff_suffix
    refine ⟨fun agree => ?_, fun only satisfied => ?_⟩
    · exact answer_of_matchesText rfl filled reached (foundIff.mpr agree)
    · exact foundIff.mp (matchesText_of_answer rfl filled only satisfied)

def signs : Json :=
  .object [("signs", .array [.object [("title", .string "ΟΔΟΣ ΕΡΜΟΥ")],
    .object [("title", .string "ΟΔΟΣΗΜΑΝΣΗ")]])]

theorem pattern_answer_signs :
    isBlankText "ΟΔΟΣ" = false ∧ string "ΟΔΟΣ ΕΡΜΟΥ" ∈ signs.resolve "signs__title" ∧
      SigmasAgree [] " ΕΡΜΟΥ".toList "ΟΔΟΣ".toList ∧
      signs.answer "signs__title" .contains "ΟΔΟΣ" = .ok true := by
  have filled : isBlankText "ΟΔΟΣ" = false := by decide
  have reached : string "ΟΔΟΣ ΕΡΜΟΥ" ∈ signs.resolve "signs__title" := .head _
  have agree : SigmasAgree [] " ΕΡΜΟΥ".toList "ΟΔΟΣ".toList := by
    rw [← lowerBetween_eq_lower_iff]
    decide +kernel
  exact ⟨filled, reached, agree,
    (pattern_answer filled reached).1 [] " ΕΡΜΟΥ".toList (by decide) agree⟩

def signpost : Json := .object [("title", .string "ΟΔΟΣΗΜΑΝΣΗ")]

def street : Json := .object [("title", .string "ΟΔΟΣ")]

/-- The front of a word, and the sigma at the end of another, are not found in it. -/
theorem pattern_answer_signpost :
    ("ΟΔΟΣ".toList <+: "ΟΔΟΣΗΜΑΝΣΗ".toList ∧
      signpost.resolve "title" = [string "ΟΔΟΣΗΜΑΝΣΗ"] ∧
      signpost.answer "title" .contains "ΟΔΟΣ" = .ok false ∧
      signpost.answer "title" .startsWith "ΟΔΟΣ" = .ok false) ∧
    "Σ".toList <:+ "ΟΔΟΣ".toList ∧ street.resolve "title" = [string "ΟΔΟΣ"] ∧
      street.answer "title" .endsWith "Σ" = .ok false := by
  have front : "ΟΔΟΣ".toList <+: "ΟΔΟΣΗΜΑΝΣΗ".toList := by decide
  have last : "Σ".toList <:+ "ΟΔΟΣ".toList := by decide
  exact ⟨⟨front, rfl, rfl, rfl⟩, last, rfl, rfl⟩

end Json

end Answers
end SavedFilter
