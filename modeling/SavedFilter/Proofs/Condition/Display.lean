import SavedFilter.Proofs.Compile.Reading
import SavedFilter.Proofs.Condition.Chains

/-! # Shown conditions are read back

The text that a condition is shown as, with the text of each comparison taken as one glyph, has one
reading by a grammar in which `AND` binds more tightly than `OR`, both group from the left, and
`NOT` comes with its parentheses. `Display.read?` finds that reading by recursive descent. It is
the condition with its chains nested to the left, so it holds of the same records,
`Condition.display_read`. -/
set_option autoImplicit false
namespace SavedFilter

/-! ## Glyphs -/

/-- A character of a text, or the whole text of a comparison. -/
inductive Glyph where
  | char (c : Char)
  | comparison (field : String) (lookup : Lookup) (operand : Operand)
deriving DecidableEq

namespace Glyph

def chars : Glyph → List Char
  | char c => [c]
  | comparison field lookup operand =>
    (Condition.displayComparison field lookup operand).toList

def ofText (s : String) : List Glyph := s.toList.map char

theorem chars_ofText (s : String) : (ofText s).flatMap chars = s.toList := by
  rw [ofText, List.flatMap_map]
  exact List.flatMap_singleton' s.toList

end Glyph

namespace Condition

open Glyph

/-- Parentheses around the glyphs of a part that binds less tightly than what it stands in. -/
def groupedGlyphs (c : Condition) (outer : Nat) (gs : List Glyph) : List Glyph :=
  if c.rank < outer then ofText "(" ++ gs ++ ofText ")" else gs

def glyphs : Condition → List Glyph
  | always => ofText "TRUE"
  | compare field lookup operand => [.comparison field lookup operand]
  | not c => ofText "NOT(" ++ c.glyphs ++ ofText ")"
  | and left right =>
    left.groupedGlyphs 2 left.glyphs ++ ofText " AND " ++ right.groupedGlyphs 2 right.glyphs
  | or left right =>
    left.groupedGlyphs 1 left.glyphs ++ ofText " OR " ++ right.groupedGlyphs 1 right.glyphs

theorem chars_groupedGlyphs {c : Condition} {gs : List Glyph} {s : String}
    (same : gs.flatMap chars = s.toList) (outer : Nat) :
    (c.groupedGlyphs outer gs).flatMap chars = (c.grouped outer s).toList := by
  rw [groupedGlyphs, grouped]
  split
  · simp [chars_ofText, same]
  · exact same

theorem chars_glyphs (c : Condition) : c.glyphs.flatMap chars = c.display.toList := by
  induction c with
  | always => exact chars_ofText "TRUE"
  | compare field lookup operand => exact List.append_nil _
  | not c ih => simp [glyphs, display, chars_ofText, ih]
  | and left right ihLeft ihRight | or left right ihLeft ihRight =>
    simp [glyphs, display, chars_ofText, chars_groupedGlyphs ihLeft, chars_groupedGlyphs ihRight]

end Condition

/-! ## The grammar and its reader -/

namespace Display

open Glyph Descent
open TermTree (Phrase)

/-- `Reads phrase gs c`: the glyphs are a phrase that groups as `c`. -/
inductive Reads : Phrase → List Glyph → Condition → Prop where
  | always : Reads .operand (ofText "TRUE") .always
  | compare (field : String) (lookup : Lookup) (operand : Operand) :
      Reads .operand [.comparison field lookup operand] (.compare field lookup operand)
  | not {gs : List Glyph} {c : Condition} (inner : Reads .disjunction gs c) :
      Reads .operand (ofText "NOT(" ++ gs ++ ofText ")") (.not c)
  | group {gs : List Glyph} {c : Condition} (inner : Reads .disjunction gs c) :
      Reads .operand (ofText "(" ++ gs ++ ofText ")") c
  | operand {gs : List Glyph} {c : Condition} (only : Reads .operand gs c) :
      Reads .conjunction gs c
  | and {gs hs : List Glyph} {left right : Condition} (first : Reads .conjunction gs left)
      (last : Reads .operand hs right) :
      Reads .conjunction (gs ++ ofText " AND " ++ hs) (.and left right)
  | conjunction {gs : List Glyph} {c : Condition} (only : Reads .conjunction gs c) :
      Reads .disjunction gs c
  | or {gs hs : List Glyph} {left right : Condition} (first : Reads .disjunction gs left)
      (last : Reads .conjunction hs right) :
      Reads .disjunction (gs ++ ofText " OR " ++ hs) (.or left right)

def closing? : List Glyph → Option (List Glyph)
  | .char ')' :: rest => some rest
  | _ => none

mutual

def operand? (gs : List Glyph) : Option (Condition × List Glyph) :=
  match gs with
  | .char 'T' :: .char 'R' :: .char 'U' :: .char 'E' :: rest => some (.always, rest)
  | .comparison field lookup operand :: rest => some (.compare field lookup operand, rest)
  | .char 'N' :: .char 'O' :: .char 'T' :: .char '(' :: rest => do
    let (c, rest) ← disjunction? rest
    let rest ← closing? rest
    return (.not c, rest)
  | .char '(' :: rest => do
    let (c, rest) ← disjunction? rest
    let rest ← closing? rest
    return (c, rest)
  | _ => none
termination_by 5 * gs.length

def conjunctionFrom? (left : Condition) (gs : List Glyph) : Option (Condition × List Glyph) :=
  match gs with
  | .char ' ' :: .char 'A' :: .char 'N' :: .char 'D' :: .char ' ' :: others => do
    let ⟨right, rest, _⟩ ← within others.length (operand? others)
    conjunctionFrom? (.and left right) rest
  | gs => some (left, gs)
termination_by 5 * gs.length + 1

def conjunction? (gs : List Glyph) : Option (Condition × List Glyph) := do
  let ⟨c, rest, _⟩ ← within gs.length (operand? gs)
  conjunctionFrom? c rest
termination_by 5 * gs.length + 2

def disjunctionFrom? (left : Condition) (gs : List Glyph) : Option (Condition × List Glyph) :=
  match gs with
  | .char ' ' :: .char 'O' :: .char 'R' :: .char ' ' :: others => do
    let ⟨right, rest, _⟩ ← within others.length (conjunction? others)
    disjunctionFrom? (.or left right) rest
  | gs => some (left, gs)
termination_by 5 * gs.length + 3

def disjunction? (gs : List Glyph) : Option (Condition × List Glyph) := do
  let ⟨c, rest, _⟩ ← within gs.length (conjunction? gs)
  disjunctionFrom? c rest
termination_by 5 * gs.length + 4

end

def read? (gs : List Glyph) : Option Condition := do
  let (c, rest) ← disjunction? gs
  if rest.isEmpty then return c else none

/-! ## The reader finds every reading -/

theorem conjunctionFrom?_and (left : Condition) {right : Condition} {gs rest : List Glyph}
    (read : operand? (gs ++ rest) = some (right, rest)) :
    conjunctionFrom? left (ofText " AND " ++ (gs ++ rest)) =
      conjunctionFrom? (.and left right) rest := by
  change conjunctionFrom? left (.char ' ' :: .char 'A' :: .char 'N' :: .char 'D' :: .char ' ' ::
    (gs ++ rest)) = _
  rw [conjunctionFrom?, read, within_some (by simp)]
  rfl

def EndsConjunction (gs : List Glyph) : Prop := ¬ ofText " AND " <+: gs

theorem conjunctionFrom?_end (left : Condition) {gs : List Glyph} (ends : EndsConjunction gs) :
    conjunctionFrom? left gs = some (left, gs) := by
  rw [conjunctionFrom?.eq_def]
  split
  · rename_i others
    exact absurd ⟨others, rfl⟩ ends
  · rfl

theorem endsConjunction_closing (rest : List Glyph) : EndsConjunction (ofText ")" ++ rest) := by
  simp [EndsConjunction, ofText]

theorem endsConjunction_or (rest : List Glyph) : EndsConjunction (ofText " OR " ++ rest) := by
  simp [EndsConjunction, ofText]

theorem disjunctionFrom?_or (left : Condition) {right : Condition} {gs rest : List Glyph}
    (read : conjunction? (gs ++ rest) = some (right, rest)) :
    disjunctionFrom? left (ofText " OR " ++ (gs ++ rest)) =
      disjunctionFrom? (.or left right) rest := by
  change disjunctionFrom? left (.char ' ' :: .char 'O' :: .char 'R' :: .char ' ' ::
    (gs ++ rest)) = _
  rw [disjunctionFrom?, read, within_some (by simp)]
  rfl

/-- A phrase in front of other glyphs is read, and behind a conjunction or a disjunction the reader
goes on with the glyphs that follow. -/
def ReadsOn : Phrase → List Glyph → Condition → Prop
  | .operand, gs, c => ∀ rest, operand? (gs ++ rest) = some (c, rest)
  | .conjunction, gs, c => ∀ rest, conjunction? (gs ++ rest) = conjunctionFrom? c rest
  | .disjunction, gs, c => ∀ rest, EndsConjunction rest →
      disjunction? (gs ++ rest) = disjunctionFrom? c rest

theorem ReadsOn.closing {gs : List Glyph} {c : Condition} (h : ReadsOn .disjunction gs c)
    (rest : List Glyph) :
    disjunction? (gs ++ (ofText ")" ++ rest)) = some (c, ofText ")" ++ rest) := by
  rw [h _ (endsConjunction_closing rest), disjunctionFrom?.eq_def]
  rfl

theorem operand?_not {c : Condition} {gs rest : List Glyph}
    (read : disjunction? gs = some (c, ofText ")" ++ rest)) :
    operand? (ofText "NOT(" ++ gs) = some (.not c, rest) := by
  change operand? (.char 'N' :: .char 'O' :: .char 'T' :: .char '(' :: gs) = _
  rw [operand?.eq_def]
  simp only [read]
  rfl

theorem operand?_group {c : Condition} {gs rest : List Glyph}
    (read : disjunction? gs = some (c, ofText ")" ++ rest)) :
    operand? (ofText "(" ++ gs) = some (c, rest) := by
  change operand? (.char '(' :: gs) = _
  rw [operand?.eq_def]
  simp only [read]
  rfl

/-- The reader goes on behind every phrase of the grammar; the induction is on the grammar. -/
theorem Reads.readsOn {phrase : Phrase} {gs : List Glyph} {c : Condition}
    (h : Reads phrase gs c) : ReadsOn phrase gs c := by
  induction h with
  | always =>
    intro rest
    rw [operand?.eq_def]
    rfl
  | compare field lookup operand =>
    intro rest
    rw [operand?.eq_def]
    rfl
  | @not gs c _ ih =>
    intro rest
    rw [List.append_assoc, List.append_assoc]
    exact operand?_not (ih.closing rest)
  | @group gs c _ ih =>
    intro rest
    rw [List.append_assoc, List.append_assoc]
    exact operand?_group (ih.closing rest)
  | @operand gs c _ ih =>
    intro rest
    rw [conjunction?, ih rest, within_some (by simp)]
    rfl
  | @and gs hs left right _ _ ihFirst ihLast =>
    intro rest
    rw [List.append_assoc, List.append_assoc, ihFirst]
    exact conjunctionFrom?_and left (ihLast rest)
  | @conjunction gs c _ ih =>
    intro rest ends
    rw [disjunction?, ih rest, conjunctionFrom?_end c ends, within_some (by simp)]
    rfl
  | @or gs hs left right _ _ ihFirst ihLast =>
    intro rest ends
    have last : conjunction? (hs ++ rest) = some (right, rest) := by
      rw [ihLast rest, conjunctionFrom?_end right ends]
    rw [List.append_assoc, List.append_assoc, ihFirst _ (endsConjunction_or _)]
    exact disjunctionFrom?_or left last

/-- No other condition is a reading of the glyphs. -/
theorem Reads.read?_eq {gs : List Glyph} {c : Condition} (h : Reads .disjunction gs c) :
    read? gs = some c := by
  have read := h.readsOn [] (by simp [EndsConjunction, ofText])
  rw [List.append_nil] at read
  rw [read?, read, disjunctionFrom?.eq_def]
  rfl

end Display

/-! ## Conditions as they are shown -/

namespace Condition

open Glyph Display

/-- What stands in a conjunction is shown as itself or, a disjunction, in parentheses. -/
theorem groupedGlyphs_disjunction (c : Condition) (gs : List Glyph) :
    c.groupedGlyphs 1 gs = gs := by
  cases c <;> rfl

/-- The ways in which the glyphs of a condition can stand in those of another. Behind `AND` or `OR`
they may go on with the chain in front of them, which is why the trees do not match part by part. -/
structure Fits (c : Condition) : Prop where
  whole : Reads .disjunction c.glyphs c.leftNested
  part : Reads .conjunction (c.groupedGlyphs 2 c.glyphs) c.leftNested
  behindAnd : ∀ gs front, Reads .conjunction gs front →
    Reads .conjunction (gs ++ ofText " AND " ++ c.groupedGlyphs 2 c.glyphs)
      (chained .and front c.leftNested)
  behindOr : ∀ gs front, Reads .disjunction gs front →
    Reads .disjunction (gs ++ ofText " OR " ++ c.glyphs) (chained .or front c.leftNested)

theorem fits_operand {c : Condition} (tight : c.rank = 3)
    (read : Reads .operand c.glyphs c.leftNested)
    (single : ∀ k, c.leftNested.connective? ≠ some k) : Fits c := by
  have bare : c.groupedGlyphs 2 c.glyphs = c.glyphs := by
    rw [groupedGlyphs, tight]
    rfl
  refine ⟨.conjunction (.operand read), ?_, ?_, ?_⟩
  · rw [bare]
    exact .operand read
  · intro gs front first
    rw [bare, chained_other (single .and)]
    exact .and first read
  · intro gs front first
    rw [chained_other (single .or)]
    exact .or first (.operand read)

section Fits

variable {left right : Condition}

theorem Fits.and (l : Fits left) (r : Fits right) : Fits (and left right) := by
  have part : Reads .conjunction (left.and right).glyphs (left.and right).leftNested :=
    r.behindAnd _ _ l.part
  refine ⟨.conjunction part, part, ?_, ?_⟩
  · intro gs front first
    change Reads .conjunction (gs ++ ofText " AND " ++ (_ ++ ofText " AND " ++ _))
      (chained .and front (chained .and _ _))
    rw [chained_chained, ← List.append_assoc, ← List.append_assoc]
    exact r.behindAnd _ _ (l.behindAnd gs front first)
  · intro gs front first
    have single : (left.and right).leftNested.connective? ≠ some .or := by
      rw [leftNested, connective?_chained]
      decide
    rw [chained_other single]
    exact .or first part

theorem Fits.or (l : Fits left) (r : Fits right) : Fits (or left right) := by
  have shown : (left.or right).glyphs = left.glyphs ++ ofText " OR " ++ right.glyphs := by
    rw [glyphs, groupedGlyphs_disjunction, groupedGlyphs_disjunction]
  have whole : Reads .disjunction (left.or right).glyphs (left.or right).leftNested := by
    rw [shown]
    exact r.behindOr _ _ l.whole
  refine ⟨whole, .operand (.group whole), ?_, ?_⟩
  · intro gs front first
    have single : (left.or right).leftNested.connective? ≠ some .and := by
      rw [leftNested, connective?_chained]
      decide
    rw [chained_other single]
    exact .and first (.group whole)
  · intro gs front first
    rw [shown, leftNested, chained_chained, ← List.append_assoc, ← List.append_assoc]
    exact r.behindOr _ _ (l.behindOr gs front first)

end Fits

theorem fits (c : Condition) : Fits c := by
  induction c with
  | always => exact fits_operand rfl .always (by simp [leftNested, connective?])
  | compare field lookup operand =>
    exact fits_operand rfl (.compare field lookup operand) (by simp [leftNested, connective?])
  | not c ih => exact fits_operand rfl (.not ih.whole) (by simp [leftNested, connective?])
  | and left right ihLeft ihRight => exact ihLeft.and ihRight
  | or left right ihLeft ihRight => exact ihLeft.or ihRight

/-- The text of a condition, comparisons as single glyphs, is read as one condition and no other:
the one that it can be regrouped to whose chains are nested to the left. The two hold of the same
records. -/
theorem display_read (c : Condition) :
    c.glyphs.flatMap Glyph.chars = c.display.toList ∧
    Display.read? c.glyphs = some c.leftNested ∧
    (∀ d, Reads .disjunction c.glyphs d ↔ d = c.leftNested) ∧
    (∀ d, d = c.leftNested ↔ RegroupsTo c d ∧ d.LeftNested) ∧
    ∀ record, c.leftNested.holds record = c.holds record := by
  have whole := c.fits.whole
  refine ⟨c.chars_glyphs, whole.read?_eq, ?_, c.eq_leftNested_iff, c.holds_leftNested⟩
  intro d
  constructor
  · intro other
    exact Option.some.inj (other.read?_eq.symm.trans whole.read?_eq)
  · rintro rfl
    exact whole

end Condition
end SavedFilter
