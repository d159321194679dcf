import Mathlib.Data.List.TakeWhile
import SavedFilter.Json.Printer
import SavedFilter.Proofs.Json.Reader
import SavedFilter.Proofs.Json.Reading
import SavedFilter.Proofs.Number.Decimal

/-! # JSON values are read back from their text

The compact text of a value is read as a source tree that denotes the value, `ofText?_compact`. The
numbers of the value must be whole and fit 64 bits, as they are in every stored record; nothing is
said about binary64 numbers.

A number or a word ends only at the next mark, so a text is taken apart from its end: what comes
behind a value begins with a mark, `Lexes.append`. -/
set_option autoImplicit false
namespace SavedFilter

/-! ## Texts and their lexemes -/

namespace Lexeme

/-- A character that neither a number nor a word goes on with. -/
def IsMark (c : Char) : Prop := isNumberChar c = false ∧ c.isLower = false

/-- Nothing is being scanned, or only a number or a word that the next mark ends. -/
def Settled (s : Scanner) (done : List Lexeme) : Prop :=
  close? s = some done ∧ ∀ c, IsMark c → step? s c = start? done c

/-- The text consists of the lexemes. -/
def Lexes (ls : List Lexeme) (cs : List Char) : Prop :=
  ∀ done, ∃ s, cs.foldlM step? ⟨done, .between⟩ = some s ∧ Settled s (ls.reverse ++ done)

/-- The same for a text that may stand behind a number or a word. -/
def Follows (ls : List Lexeme) (cs : List Char) : Prop :=
  Lexes ls cs ∧ ∀ c, cs.head? = some c → IsMark c

theorem settled_between (done : List Lexeme) : Settled ⟨done, .between⟩ done :=
  ⟨rfl, fun _ _ => rfl⟩

theorem settled_number {done : List Lexeme} {chars : List Char} {l : NumberLiteral}
    (read : NumberLiteral.ofText? chars.reverse = some l) :
    Settled ⟨done, .number chars⟩ (.number l :: done) := by
  have closed : close? ⟨done, .number chars⟩ = some (.number l :: done) := by
    simp [close?, read]
  refine ⟨closed, ?_⟩
  intro c mark
  rw [step?, closed, mark.1]
  rfl

theorem settled_word {done : List Lexeme} {chars : List Char} {lexeme : Lexeme}
    (read : ofWord? chars.reverse = some lexeme) :
    Settled ⟨done, .word chars⟩ (lexeme :: done) := by
  have closed : close? ⟨done, .word chars⟩ = some (lexeme :: done) := by
    simp [close?, read]
  refine ⟨closed, ?_⟩
  intro c mark
  rw [step?, closed, mark.2]
  rfl

section Lexes

variable {ls ls' : List Lexeme} {cs cs' : List Char}

theorem lexes_nil : Lexes [] [] := fun done => ⟨_, rfl, settled_between done⟩

theorem Lexes.cons {c : Char} {lexeme : Lexeme} (rest : Lexes ls cs)
    (mark : ∀ done, start? done c = some ⟨lexeme :: done, .between⟩) :
    Lexes (lexeme :: ls) (c :: cs) := by
  intro done
  obtain ⟨s, run, settled⟩ := rest (lexeme :: done)
  refine ⟨s, ?_, ?_⟩
  · rw [List.foldlM_cons, step?, mark]
    exact run
  · rwa [List.reverse_cons, List.append_assoc]

theorem Lexes.follows {c : Char} {lexeme : Lexeme} (rest : Lexes ls cs)
    (mark : ∀ done, start? done c = some ⟨lexeme :: done, .between⟩) (ends : IsMark c) :
    Follows (lexeme :: ls) (c :: cs) := by
  refine ⟨rest.cons mark, ?_⟩
  rintro _ ⟨⟩
  exact ends

theorem Lexes.append (first : Lexes ls cs) (rest : Follows ls' cs') :
    Lexes (ls ++ ls') (cs ++ cs') := by
  intro done
  obtain ⟨s, run, closed, ends⟩ := first done
  obtain ⟨s', run', settled'⟩ := rest.1 (ls.reverse ++ done)
  rw [List.reverse_append, List.append_assoc]
  cases cs' with
  | nil =>
    -- nothing follows, so the first text may end within a word
    cases run'
    have same : ls.reverse ++ done = ls'.reverse ++ (ls.reverse ++ done) :=
      Option.some.inj settled'.1
    rw [List.append_nil, ← same]
    exact ⟨s, run, closed, ends⟩
  | cons c cs' =>
    refine ⟨s', ?_, settled'⟩
    rw [List.foldlM_append, run]
    change (step? s c).bind (cs'.foldlM step?) = some s'
    rw [ends c (rest.2 c rfl)]
    exact run'

theorem ofText?_of_lexes (lexes : Lexes ls cs) : ofText? cs = some ls := by
  obtain ⟨s, run, closed, _⟩ := lexes []
  simp [ofText?, run, closed]

end Lexes

/-! ## Strings -/

theorem hexDigit?_digitChar : ∀ d < 16, hexDigit? (Nat.digitChar d) = some d := by
  decide

section Strings

variable {done : List Lexeme} {before : List Piece}

/-- A control character is scanned from its number in four digits. -/
theorem scan_control {c : Char} (control : c.toNat < 0x20) :
    ['\\', 'u', '0', '0', Nat.digitChar (c.toNat / 16), Nat.digitChar (c.toNat % 16)].foldlM step?
      ⟨done, .string before⟩ = some ⟨done, .string (.escaped c :: before)⟩ := by
  have high : hexDigit? (Nat.digitChar (c.toNat / 16)) = some (c.toNat / 16) :=
    hexDigit?_digitChar _ (by omega)
  have low : hexDigit? (Nat.digitChar (c.toNat % 16)) = some (c.toNat % 16) :=
    hexDigit?_digitChar _ (by omega)
  have zero : hexDigit? '0' = some 0 := rfl
  have number : 16 * (c.toNat / 16) + c.toNat % 16 = c.toNat := by omega
  have whole : pieceOfUnit c.toNat = .escaped c := by
    rw [pieceOfUnit, if_neg (by omega), Char.ofNat_toNat]
  simp [step?, zero, high, low, number, whole]

theorem scan_escapedChar (c : Char) : ∃ piece, (piece = .char c ∨ piece = .escaped c) ∧
    ∀ done before, (Json.escapedChar c).foldlM step? ⟨done, .string before⟩ =
      some ⟨done, .string (piece :: before)⟩ := by
  have again : Char.ofNat c.toNat = c := Char.ofNat_toNat c
  rw [Json.escapedChar.eq_def]
  split
  case h_8 noQuote noBackslash =>
    split
    · rename_i control
      exact ⟨.escaped c, .inr rfl, fun _ _ => scan_control control⟩
    · rename_i shown
      refine ⟨.char c, .inl rfl, ?_⟩
      intro done before
      have next : step? ⟨done, .string before⟩ c = some ⟨done, .string (.char c :: before)⟩ := by
        dsimp only [step?]
        rw [if_neg noQuote, if_neg noBackslash, if_neg shown]
      rw [List.foldlM_cons, next]
      rfl
  -- the seven characters with an escape of one letter
  all_goals
    rename_i letter
    rw [letter] at again
    subst again
    exact ⟨.escaped _, .inr rfl, fun _ _ => rfl⟩

/-- The escaped characters of a text are scanned as pieces of the text. -/
theorem scan_escaped (cs : List Char) : ∃ pieces, Piece.chars? pieces = some cs ∧
    ∀ done before, (cs.flatMap Json.escapedChar).foldlM step? ⟨done, .string before⟩ =
      some ⟨done, .string (pieces.reverse ++ before)⟩ := by
  induction cs with
  | nil => exact ⟨[], rfl, fun _ _ => rfl⟩
  | cons c cs ih =>
    obtain ⟨piece, stands, first⟩ := scan_escapedChar c
    obtain ⟨pieces, read, later⟩ := ih
    refine ⟨piece :: pieces, ?_, ?_⟩
    · rcases stands with rfl | rfl
      · rw [Piece.chars?, read, Option.map_some]
      · rw [Piece.chars?, read, Option.map_some]
    · intro done before
      rw [List.flatMap_cons, List.foldlM_append, first, List.reverse_cons, List.append_assoc]
      exact later done (piece :: before)

theorem lexes_string (s : String) : ∃ pieces, Piece.text? pieces = some s ∧
    ∀ {ls : List Lexeme} {cs : List Char}, Lexes ls cs →
      Lexes (.string pieces :: ls) (Json.stringText s ++ cs) := by
  obtain ⟨pieces, read, scan⟩ := scan_escaped s.toList
  refine ⟨pieces, by rw [Piece.text?, read, Option.map_some, String.ofList_toList], ?_⟩
  intro ls cs rest done
  obtain ⟨s', run, settled⟩ := rest (.string pieces :: done)
  refine ⟨s', ?_, ?_⟩
  · have opened : step? ⟨done, .between⟩ '\x22' = some ⟨done, .string []⟩ := rfl
    have closed : step? ⟨done, .string (pieces.reverse ++ [])⟩ '\x22' =
        some ⟨.string pieces :: done, .between⟩ := by
      simp [step?]
    simp only [Json.stringText, List.cons_append, List.append_assoc, List.nil_append,
      List.foldlM_cons, List.foldlM_append, opened, scan, closed, Option.bind_eq_bind,
      Option.bind_some]
    exact run
  · rwa [List.reverse_cons, List.append_assoc]

end Strings

/-! ## Whole numbers -/

theorem isNumberChar_of_isDigit {c : Char} (digit : c.isDigit) : isNumberChar c := by
  simp [isNumberChar, digit]

theorem start?_of_isDigit {c : Char} (digit : c.isDigit) (done : List Lexeme) :
    start? done c = some ⟨done, .number [c]⟩ := by
  have range : 48 ≤ c.toNat ∧ c.toNat ≤ 57 := by
    rw [Char.isDigit, Bool.and_eq_true, decide_eq_true_eq, decide_eq_true_eq] at digit
    exact digit
  rw [start?.eq_def]
  split
  case h_12 => rw [digit]; rfl
  all_goals omega

theorem scan_digits {ds : List Char} (digits : AreDigits ds) (done : List Lexeme)
    (before : List Char) : ds.foldlM step? ⟨done, .number before⟩ =
      some ⟨done, .number (ds.reverse ++ before)⟩ := by
  induction ds generalizing before with
  | nil => rfl
  | cons c ds ih =>
    have next : step? ⟨done, .number before⟩ c = some ⟨done, .number (c :: before)⟩ :=
      if_pos (isNumberChar_of_isDigit (digits c List.mem_cons_self))
    rw [List.foldlM_cons, next, List.reverse_cons, List.append_assoc]
    exact ih (fun d member => digits d (List.mem_cons_of_mem c member)) (c :: before)

theorem digitChar_ne_zero : ∀ n < 10, 0 < n → Nat.digitChar n ≠ '0' := by
  decide

/-- Only zero has a zero in front. -/
theorem head_digitsOf {n : Nat} (positive : 0 < n) : (digitsOf n).head? ≠ some '0' := by
  induction n using Nat.strongRecOn with
  | _ n ih =>
    by_cases small : n < 10
    · rw [digitsOf, Nat.toDigits_of_lt_base small]
      simpa using digitChar_ne_zero n small positive
    · have shorter := ih (n / 10) (by omega) (by omega)
      have digits : digitsOf n = digitsOf (n / 10) ++ [Nat.digitChar (n % 10)] :=
        Nat.toDigits_of_base_le (by decide) (by omega)
      rwa [digits, List.head?_append_of_ne_nil _ (digitsOf_ne_nil _)]

theorem ofText?_digits (negative : Bool) (n : Nat) :
    NumberLiteral.ofText? (Decimal.signText negative ++ digitsOf n) =
      some ⟨negative, digitsOf n, none, none⟩ := by
  have digits := areDigits_digitsOf n
  have taken : (digitsOf n).takeWhile Char.isDigit = digitsOf n :=
    List.takeWhile_eq_self_iff.mpr digits
  have dropped : (digitsOf n).dropWhile Char.isDigit = [] :=
    List.dropWhile_eq_nil_iff.mpr digits
  have noZero : ((digitsOf n).head? == some '0' && 1 < (digitsOf n).length) = false := by
    obtain rfl | positive := Nat.eq_zero_or_pos n
    · rfl
    · rw [beq_false_of_ne (head_digitsOf positive), Bool.false_and]
  have someDigit : (digitsOf n).isEmpty = false := by
    simpa using digitsOf_ne_nil n
  have noMinus : (digitsOf n).head? ≠ some '-' := by
    intro minus
    exact digits.ne_of_mem (List.mem_of_head? minus) rfl rfl
  have signed : (Decimal.signText negative ++ digitsOf n).head? = some '-' ↔ negative = true := by
    cases negative with
    | true => simp [Decimal.signText]
    | false => simpa [Decimal.signText] using noMinus
  have unsigned : (if negative then (Decimal.signText negative ++ digitsOf n).tail
      else Decimal.signText negative ++ digitsOf n) = digitsOf n := by
    cases negative <;> rfl
  simp only [NumberLiteral.ofText?, signed, Bool.decide_eq_true, unsigned, taken, dropped,
    someDigit, noZero, Bool.or_self, Bool.false_eq_true, if_false]
  rfl

theorem toList_toString (n : Int) :
    (toString n).toList = Decimal.signText (decide (n < 0)) ++ digitsOf n.natAbs := by
  cases n with
  | ofNat m =>
    change (toString m).toList = _
    rw [Nat.toString_eq_ofList_toDigits, String.toList_ofList]
    simp [Decimal.signText, digitsOf]
  | negSucc m =>
    change ("-" ++ toString (m + 1)).toList = _
    rw [String.toList_append, Nat.toString_eq_ofList_toDigits, String.toList_ofList]
    simp [Decimal.signText, digitsOf, Int.negSucc_lt_zero]

theorem integer?_digits {n : Int} (least : -(Nat.pow 2 63 : Int) ≤ n) (most : n < UInt64.size) :
    NumberLiteral.integer? ⟨decide (n < 0), digitsOf n.natAbs, none, none⟩ = some n := by
  dsimp only [NumberLiteral.integer?]
  rw [valueOf_digitsOf]
  by_cases negative : n < 0
  · have fits : 0 < n.natAbs ∧ n.natAbs ≤ Nat.pow 2 63 := by omega
    have same : -(n.natAbs : Int) = n := by omega
    rw [if_pos (decide_eq_true negative), if_pos fits, same]
  · have fits : n.natAbs < UInt64.size := by omega
    have same : (n.natAbs : Int) = n := by omega
    rw [if_neg (by simpa using negative), if_pos fits, same]

theorem scan_integer (negative : Bool) (n : Nat) (done : List Lexeme) :
    (Decimal.signText negative ++ digitsOf n).foldlM step? ⟨done, .between⟩ =
      some ⟨done, .number (Decimal.signText negative ++ digitsOf n).reverse⟩ := by
  have digits := areDigits_digitsOf n
  cases negative with
  | true =>
    have minus : step? ⟨done, .between⟩ '-' = some ⟨done, .number ['-']⟩ := rfl
    change ('-' :: digitsOf n).foldlM step? _ = some ⟨done, .number ('-' :: digitsOf n).reverse⟩
    rw [List.foldlM_cons, minus, List.reverse_cons]
    exact scan_digits digits done ['-']
  | false =>
    obtain ⟨d, ds, front⟩ := List.exists_cons_of_ne_nil (digitsOf_ne_nil n)
    rw [front] at digits
    have first : step? ⟨done, .between⟩ d = some ⟨done, .number [d]⟩ :=
      start?_of_isDigit (digits d List.mem_cons_self) done
    change (digitsOf n).foldlM step? _ = some ⟨done, .number (digitsOf n).reverse⟩
    rw [front, List.foldlM_cons, first, List.reverse_cons]
    exact scan_digits (fun c member => digits c (List.mem_cons_of_mem d member)) done [d]

/-- A whole number that fits 64 bits is one lexeme and is read as the number. -/
theorem lexes_integer {n : Int} (least : -(Nat.pow 2 63 : Int) ≤ n) (most : n < UInt64.size) :
    ∃ l : NumberLiteral, l.integer? = some n ∧ Lexes [.number l] (toString n).toList := by
  refine ⟨_, integer?_digits least most, ?_⟩
  intro done
  rw [toList_toString]
  refine ⟨_, scan_integer (decide (n < 0)) n.natAbs done, settled_number ?_⟩
  rw [List.reverse_reverse]
  exact ofText?_digits (decide (n < 0)) n.natAbs

end Lexeme

/-! ## Values -/

open Lexeme Source

/-- The numbers of a value are whole and fit 64 bits, signed or unsigned. -/
inductive Json.WholeNumbers : Json → Prop
  | null : WholeNumbers .null
  | bool (b : Bool) : WholeNumbers (.bool b)
  | integer {n : Int} (least : -(Nat.pow 2 63 : Int) ≤ n) (most : n < UInt64.size) :
      WholeNumbers (.integer n)
  | string (s : String) : WholeNumbers (.string s)
  | array {values : List Json} (items : ∀ v ∈ values, WholeNumbers v) :
      WholeNumbers (.array values)
  | object {members : List (String × Json)} (values : ∀ m ∈ members, WholeNumbers m.2) :
      WholeNumbers (.object members)

/-- The text of the value consists of the lexemes of a tree that denotes the value. -/
def Json.Written (value : Json) : Prop :=
  ∃ source : Source, source.Denotes value ∧ Lexes source.lexemes value.compactChars

theorem follows_items {rest : List Json} (each : ∀ v ∈ rest, v.Written) :
    ∃ sources, Denotes (.array sources) (.array rest) ∧
      Follows (itemLexemes sources ++ [.closeArray]) (Json.compactItems false rest ++ [']']) := by
  induction rest with
  | nil => exact ⟨[], .array .nil, lexes_nil.follows (fun _ => rfl) ⟨rfl, rfl⟩⟩
  | cons value rest ih =>
    obtain ⟨source, denotes, first⟩ := each value List.mem_cons_self
    obtain ⟨sources, items, later⟩ := ih fun v member => each v (List.mem_cons_of_mem value member)
    refine ⟨source :: sources, items.item denotes, ?_⟩
    have text := (first.append later).follows (c := ',') (fun _ => rfl) ⟨rfl, rfl⟩
    simpa [itemLexemes, Json.compactItems] using text

theorem lexes_member (name : String) {value : Json} (written : value.Written) :
    ∃ (pieces : List Piece) (source : Source),
      Piece.text? pieces = some name ∧ source.Denotes value ∧
      ∀ {ls : List Lexeme} {cs : List Char}, Follows ls cs →
        Lexes (.string pieces :: .colon :: (source.lexemes ++ ls))
          (Json.stringText name ++ ':' :: (value.compactChars ++ cs)) := by
  obtain ⟨pieces, named, quoted⟩ := lexes_string name
  obtain ⟨source, denotes, text⟩ := written
  refine ⟨pieces, source, named, denotes, ?_⟩
  intro ls cs rest
  exact quoted ((text.append rest).cons fun _ => rfl)

theorem follows_members {rest : List (String × Json)} (each : ∀ m ∈ rest, m.2.Written) :
    ∃ written, Denotes (.object written) (.object rest) ∧
      Follows (memberLexemes written ++ [.closeObject])
        (Json.compactMembers false rest ++ ['\x7d']) := by
  induction rest with
  | nil => exact ⟨[], denotes_noMembers, lexes_nil.follows (fun _ => rfl) ⟨rfl, rfl⟩⟩
  | cons member rest ih =>
    obtain ⟨name, value⟩ := member
    obtain ⟨pieces, source, named, denotes, first⟩ := lexes_member name (each _ List.mem_cons_self)
    obtain ⟨written, members, later⟩ := ih fun m member => each m (List.mem_cons_of_mem _ member)
    refine ⟨(pieces, source) :: written, members.member named denotes, ?_⟩
    have text := (first later).follows (c := ',') (fun _ => rfl) ⟨rfl, rfl⟩
    simpa [memberLexemes, Json.compactMembers] using text

theorem Json.WholeNumbers.written {value : Json} (whole : value.WholeNumbers) :
    value.Written := by
  induction whole with
  | null => exact ⟨.null, .null, fun done => ⟨_, rfl, settled_word rfl⟩⟩
  | bool b =>
    cases b with
    | true => exact ⟨.bool true, .bool true, fun done => ⟨_, rfl, settled_word rfl⟩⟩
    | false => exact ⟨.bool false, .bool false, fun done => ⟨_, rfl, settled_word rfl⟩⟩
  | integer least most =>
    obtain ⟨l, read, text⟩ := lexes_integer least most
    exact ⟨.number l, .integer read, text⟩
  | string s =>
    obtain ⟨pieces, read, text⟩ := lexes_string s
    have alone := text lexes_nil
    rw [List.append_nil] at alone
    exact ⟨.string pieces, .string read, alone⟩
  | @array values _ each =>
    cases values with
    | nil =>
      have bracket := lexes_nil.cons (c := ']') fun _ => rfl
      exact ⟨.array [], .array .nil, bracket.cons fun _ => rfl⟩
    | cons value rest =>
      obtain ⟨source, denotes, first⟩ := each value List.mem_cons_self
      obtain ⟨sources, items, later⟩ :=
        follows_items fun v member => each v (List.mem_cons_of_mem value member)
      refine ⟨.array (source :: sources), items.item denotes, ?_⟩
      have text := (first.append later).cons (c := '[') fun _ => rfl
      simpa [Source.lexemes, Json.compactChars, Json.compactItems] using text
  | @object members _ each =>
    cases members with
    | nil =>
      have bracket := lexes_nil.cons (c := '\x7d') fun _ => rfl
      exact ⟨.object [], denotes_noMembers, bracket.cons fun _ => rfl⟩
    | cons member rest =>
      obtain ⟨name, value⟩ := member
      obtain ⟨pieces, source, named, denotes, first⟩ :=
        lexes_member name (each _ List.mem_cons_self)
      obtain ⟨written, members, later⟩ :=
        follows_members fun m member => each m (List.mem_cons_of_mem _ member)
      refine ⟨.object ((pieces, source) :: written), members.member named denotes, ?_⟩
      have text := (first later).cons (c := '\x7b') fun _ => rfl
      simpa [Source.lexemes, Json.compactChars, Json.compactMembers] using text

theorem Source.ofText?_compact {value : Json} (whole : value.WholeNumbers) :
    ∃ source, Source.ofText? value.compact = some source ∧ source.Denotes value := by
  obtain ⟨source, denotes, text⟩ := whole.written
  refine ⟨source, ?_, denotes⟩
  rw [Source.ofText?, Json.compact, String.toList_ofList, ofText?_of_lexes text, Option.bind_some,
    ofLexemes?_lexemes]

theorem readWhole_compact {α : Type} {read : Reading α} {value : Json} {a : α}
    (reads : Reads read bracketLimit value a) (whole : value.WholeNumbers) :
    readWhole read value.compact = some a := by
  obtain ⟨source, parsed, denotes⟩ := Source.ofText?_compact whole
  rw [readWhole, parsed, Option.bind_some, reads source denotes]

theorem wholeNumbers_list {α : Type} {write : α → Json} {xs : List α}
    (each : ∀ x ∈ xs, (write x).WholeNumbers) : (Json.array (xs.map write)).WholeNumbers := by
  refine .array fun v member => ?_
  obtain ⟨x, listed, rfl⟩ := List.mem_map.mp member
  exact each x listed

theorem wholeNumbers_membersOf {slots : List (String × Option Json)}
    (each : ∀ slot ∈ slots, ∀ v, slot.2 = some v → v.WholeNumbers) :
    (Json.object (membersOf slots)).WholeNumbers := by
  refine .object fun m member => ?_
  obtain ⟨slot, listed, stored⟩ := List.mem_filterMap.mp member
  obtain ⟨v, present, rfl⟩ := Option.map_eq_some_iff.mp stored
  exact each slot listed v present

end SavedFilter
