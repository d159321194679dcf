import Mathlib.Data.List.Forall2
import Mathlib.Data.List.TakeWhile
import SavedFilter.Proofs.Text.Blank
import SavedFilter.Text.Split

/-! # Trimmed parts

Blanks around a text have no part in what trimming leaves of it, `Padded.trim_eq`, and trimming
removes nothing else; it leaves a text alone if no blank is at either end, `trim_eq_self_iff`. So
what a list of trimmed parts holds is not empty, has no blanks around it and no separator in it; and
parts of this kind are found again in their text with separators between them, whatever blanks stand
around each, `trimmedParts_joined`. -/
set_option autoImplicit false
namespace SavedFilter.Text

variable {cs text front back : List Char}

/-! ## Blanks around a text -/

/-- The text stands with blanks around it, or with none. -/
def Padded (cs text : List Char) : Prop :=
  ∃ front back, (∀ c ∈ front, isBlank c) ∧ (∀ c ∈ back, isBlank c) ∧ text = front ++ cs ++ back

theorem trimEnd_append (blank : ∀ c ∈ back, isBlank c) (cs : List Char) :
    trimEnd (cs ++ back) = trimEnd cs := by
  have blank' : ∀ c ∈ back.reverse, isBlank c := by simpa using blank
  rw [trimEnd, List.reverse_append, List.dropWhile_append_of_pos blank', trimEnd]

theorem trim_append_blanks (blank : ∀ c ∈ back, isBlank c) (cs : List Char) :
    trim (cs ++ back) = trim cs := by
  by_cases noneLeft : trimStart cs = []
  · have allBlank : trimStart (cs ++ back) = trimStart back := by
      rw [trimStart] at noneLeft
      rw [trimStart, List.dropWhile_append, noneLeft]
      rfl
    have backBlank : trimStart back = [] := by
      have gone := trimStart_append blank []
      rwa [List.append_nil] at gone
    rw [trim, allBlank, backBlank, trim, noneLeft]
  · have someLeft : trimStart (cs ++ back) = trimStart cs ++ back := by
      rw [trimStart] at noneLeft
      rw [trimStart, List.dropWhile_append, if_neg (by simpa using noneLeft), trimStart]
    rw [trim, someLeft, trimEnd_append blank, trim]

theorem Padded.trim_eq (padded : Padded cs text) : trim text = trim cs := by
  obtain ⟨front, back, frontBlank, backBlank, rfl⟩ := padded
  rw [trim_append_blanks backBlank, trim, trimStart_append frontBlank, trim]

theorem padded_trim (cs : List Char) : Padded (trim cs) cs := by
  refine ⟨cs.takeWhile isBlank, ((trimStart cs).reverse.takeWhile isBlank).reverse, ?_, ?_, ?_⟩
  · exact fun c member => List.mem_takeWhile_imp member
  · intro c member
    exact List.mem_takeWhile_imp (List.mem_reverse.mp member)
  · have behind : trim cs ++ ((trimStart cs).reverse.takeWhile isBlank).reverse = trimStart cs := by
      rw [trim, trimEnd, ← List.reverse_append, List.takeWhile_append_dropWhile,
        List.reverse_reverse]
    rw [List.append_assoc, behind, trimStart, List.takeWhile_append_dropWhile]

theorem trim_trim (cs : List Char) : trim (trim cs) = trim cs := (padded_trim cs).trim_eq.symm

theorem Padded.refl (cs : List Char) : Padded cs cs := ⟨[], [], by simp⟩

theorem trimStart_eq_self_iff : trimStart cs = cs ↔ ∀ c ∈ cs.head?, isBlank c = false := by
  cases cs with
  | nil => simp [trimStart]
  | cons c cs => simp [trimStart, List.dropWhile_eq_self_iff]

theorem trimEnd_eq_self_iff : trimEnd cs = cs ↔ ∀ c ∈ cs.getLast?, isBlank c = false := by
  rw [trimEnd, List.reverse_eq_iff, ← List.head?_reverse]
  exact trimStart_eq_self_iff

theorem trimEnd_length_le (cs : List Char) : (trimEnd cs).length ≤ cs.length :=
  calc (trimEnd cs).length
    _ = (cs.reverse.dropWhile isBlank).length := List.length_reverse
    _ ≤ cs.reverse.length := (List.dropWhile_suffix isBlank).length_le
    _ = cs.length := List.length_reverse

/-- Nothing is trimmed if neither the first character nor the last one is a blank. -/
theorem trim_eq_self_iff : trim cs = cs ↔
    (∀ c ∈ cs.head?, isBlank c = false) ∧ ∀ c ∈ cs.getLast?, isBlank c = false := by
  rw [← trimStart_eq_self_iff, ← trimEnd_eq_self_iff]
  constructor
  · intro whole
    -- What is taken off at the start cannot come back at the end.
    have long : cs.length ≤ (trimStart cs).length := by
      have shortened := trimEnd_length_le (trimStart cs)
      rwa [← trim, whole] at shortened
    have start : trimStart cs = cs := (List.dropWhile_suffix isBlank).eq_of_length_le long
    rw [trim, start] at whole
    exact ⟨start, whole⟩
  · rintro ⟨start, finish⟩
    rw [trim, start, finish]

theorem mem_of_mem_trim {c : Char} (member : c ∈ trim cs) : c ∈ cs := by
  obtain ⟨front, back, _, _, whole⟩ := padded_trim cs
  rw [whole]
  simp [member]

theorem isBlankText_of_trimmed (trimmed : trim cs = cs) (someChar : cs ≠ []) :
    isBlankText (String.ofList cs) = false := by
  rw [isBlankText, String.toList_ofList, trimmed]
  simpa using someChar

/-! ## Parts between separators -/

/-- What a list with separators can hold: a text that is not empty, with no blanks around it and no
separator in it. -/
structure IsPart (sep : Char) (part : List Char) : Prop where
  someChar : part ≠ []
  trimmed : trim part = part
  unseparated : sep ∉ part

variable {sep : Char} {part : List Char}

theorem notMem_of_mem_splitOn (member : part ∈ cs.splitOn sep) : sep ∉ part := by
  induction cs generalizing part with
  | nil =>
    rw [List.splitOn_nil, List.mem_singleton] at member
    simp [member]
  | cons c cs ih =>
    obtain ⟨first, others, split⟩ := List.exists_cons_of_ne_nil (List.splitOn_ne_nil sep cs)
    rw [List.splitOn_cons_eq_if_modifyHead, split] at member
    rw [split] at ih
    by_cases separates : c = sep
    · rw [if_pos (by simpa using separates), List.mem_cons] at member
      obtain rfl | member := member
      · simp
      · exact ih member
    · rw [if_neg (by simpa using separates), List.modifyHead_cons, List.mem_cons] at member
      obtain rfl | member := member
      · simp [Ne.symm separates, ih List.mem_cons_self]
      · exact ih (List.mem_cons_of_mem first member)

theorem mem_trimmedParts :
    part ∈ trimmedParts sep cs ↔ (∃ p ∈ cs.splitOn sep, trim p = part) ∧ part ≠ [] := by
  simp [trimmedParts]

theorem isPart_of_mem_trimmedParts (member : part ∈ trimmedParts sep cs) : IsPart sep part := by
  obtain ⟨⟨p, split, rfl⟩, someChar⟩ := mem_trimmedParts.mp member
  exact ⟨someChar, trim_trim p, fun inside => notMem_of_mem_splitOn split (mem_of_mem_trim inside)⟩

theorem Padded.unseparated (plain : isBlank sep = false) (padded : Padded cs text)
    (unseparated : sep ∉ cs) : sep ∉ text := by
  obtain ⟨front, back, frontBlank, backBlank, rfl⟩ := padded
  have noBlank (blanks : List Char) (blank : ∀ c ∈ blanks, isBlank c) : sep ∉ blanks := by
    intro member
    rw [blank sep member] at plain
    cases plain
  simp [noBlank front frontBlank, noBlank back backBlank, unseparated]

theorem parts_of_padded (plain : isBlank sep = false) {parts texts : List (List Char)}
    (each : ∀ part ∈ parts, IsPart sep part) (padded : List.Forall₂ Padded parts texts) :
    texts.map trim = parts ∧ ∀ text ∈ texts, sep ∉ text := by
  induction padded with
  | nil => simp
  | @cons part text parts texts first _ ih =>
    have isPart := each part List.mem_cons_self
    obtain ⟨trimmed, unseparated⟩ := ih fun p member => each p (List.mem_cons_of_mem part member)
    constructor
    · rw [List.map_cons, trimmed, first.trim_eq, isPart.trimmed]
    · exact List.forall_mem_cons.mpr ⟨first.unseparated plain isPart.unseparated, unseparated⟩

theorem trimmedParts_blank (plain : isBlank sep = false) (blank : trim cs = []) :
    trimmedParts sep cs = [] := by
  have padded := padded_trim cs
  rw [blank] at padded
  rw [trimmedParts, List.splitOn_eq_singleton (padded.unseparated plain List.not_mem_nil)]
  simp [blank]

/-- Parts with separators between them, and any blanks around each, are found again. -/
theorem trimmedParts_joined (plain : isBlank sep = false) {parts texts : List (List Char)}
    (each : ∀ part ∈ parts, IsPart sep part) (padded : List.Forall₂ Padded parts texts) :
    trimmedParts sep ([sep].intercalate texts) = parts := by
  by_cases none : texts = []
  · subst none
    obtain rfl := List.forall₂_nil_right_iff.mp padded
    rfl
  · obtain ⟨trimmed, unseparated⟩ := parts_of_padded plain each padded
    rw [trimmedParts, List.splitOn_intercalate sep unseparated none, trimmed, List.filter_eq_self]
    intro part member
    simpa using (each part member).someChar

theorem map_trimmedParts_joined {between : String} (separator : between.toList = [sep])
    (plain : isBlank sep = false) {parts texts : List String}
    (each : ∀ part ∈ parts, IsPart sep part.toList)
    (padded : List.Forall₂ (fun part text => Padded part.toList text.toList) parts texts) :
    (trimmedParts sep (between.intercalate texts).toList).map String.ofList = parts := by
  have found : trimmedParts sep ([sep].intercalate (texts.map String.toList)) =
      parts.map String.toList := by
    apply trimmedParts_joined plain
    · intro cs member
      obtain ⟨part, inside, rfl⟩ := List.mem_map.mp member
      exact each part inside
    · rwa [List.forall₂_map_left_iff, List.forall₂_map_right_iff]
  rw [String.toList_intercalate, separator, found, List.map_map]
  simp

end SavedFilter.Text
