import SavedFilter.Json.Source

/-! # The lexemes of a JSON text

A scanner that takes one character at a time. Between lexemes it skips spaces, tabs and line
breaks; a number or a word lasts as long as its characters do, and is then read as a whole;
inside a string it counts off escapes. Control characters are refused in strings. -/
set_option autoImplicit false
namespace SavedFilter

inductive Lexeme where
  | openArray
  | closeArray
  | openObject
  | closeObject
  | comma
  | colon
  | null
  | bool (b : Bool)
  | number (l : NumberLiteral)
  | string (pieces : List Piece)

/-- What the scanner is in the middle of. Pieces and characters are kept last first. -/
inductive Scan where
  | between
  | string (pieces : List Piece)
  | escape (pieces : List Piece)
  | hex (pieces : List Piece) (left value : Nat)
  | number (chars : List Char)
  | word (chars : List Char)

/-- The lexemes so far, last first, and what is being scanned. -/
structure Scanner where
  done : List Lexeme
  scan : Scan

namespace Lexeme

def hexDigit? (c : Char) : Option Nat :=
  if c.isDigit then some (c.toNat - '0'.toNat)
  else if 'a' ≤ c ∧ c ≤ 'f' then some (c.toNat - 'a'.toNat + 10)
  else if 'A' ≤ c ∧ c ≤ 'F' then some (c.toNat - 'A'.toNat + 10)
  else none

def pieceOfUnit (n : Nat) : Piece :=
  if 0xd800 ≤ n ∧ n < 0xe000 then .half n else .escaped (Char.ofNat n)

def escaped? (c : Char) : Option Char :=
  match c.toNat with
  | 0x22 => some c
  | 0x5c => some c
  | 0x2f => some c
  | 0x62 => some (Char.ofNat 0x08)
  | 0x66 => some (Char.ofNat 0x0c)
  | 0x6e => some '\n'
  | 0x72 => some '\r'
  | 0x74 => some '\t'
  | _ => none

def ofWord? (word : List Char) : Option Lexeme :=
  if word = "null".toList then some .null
  else if word = "true".toList then some (.bool true)
  else if word = "false".toList then some (.bool false)
  else none

def isNumberChar (c : Char) : Bool :=
  c.isDigit || c == '-' || c == '+' || c == '.' || c == 'e' || c == 'E'

def start? (done : List Lexeme) (c : Char) : Option Scanner :=
  match c.toNat with
  | 0x20 | 0x09 | 0x0a | 0x0d => some ⟨done, .between⟩
  | 0x5b => some ⟨.openArray :: done, .between⟩
  | 0x5d => some ⟨.closeArray :: done, .between⟩
  | 0x7b => some ⟨.openObject :: done, .between⟩
  | 0x7d => some ⟨.closeObject :: done, .between⟩
  | 0x2c => some ⟨.comma :: done, .between⟩
  | 0x3a => some ⟨.colon :: done, .between⟩
  | 0x22 => some ⟨done, .string []⟩
  | _ =>
    if c.isDigit || c == '-' then some ⟨done, .number [c]⟩
    else if c.isLower then some ⟨done, .word [c]⟩
    else none

def close? (s : Scanner) : Option (List Lexeme) :=
  match s.scan with
  | .between => some s.done
  | .number chars => (NumberLiteral.ofText? chars.reverse).map (.number · :: s.done)
  | .word chars => (ofWord? chars.reverse).map (· :: s.done)
  | _ => none

def step? (s : Scanner) (c : Char) : Option Scanner :=
  match s.scan with
  | .between => start? s.done c
  | .number chars =>
    if isNumberChar c then some { s with scan := .number (c :: chars) }
    else (close? s).bind (start? · c)
  | .word chars =>
    if c.isLower then some { s with scan := .word (c :: chars) }
    else (close? s).bind (start? · c)
  | .string pieces =>
    if c.toNat = 0x22 then some ⟨.string pieces.reverse :: s.done, .between⟩
    else if c.toNat = 0x5c then some { s with scan := .escape pieces }
    else if c.toNat < 0x20 then none
    else some { s with scan := .string (.char c :: pieces) }
  | .escape pieces =>
    if c = 'u' then some { s with scan := .hex pieces 4 0 }
    else (escaped? c).map fun c => { s with scan := .string (.escaped c :: pieces) }
  | .hex pieces left value =>
    (hexDigit? c).map fun d =>
      let value := 16 * value + d
      if left ≤ 1 then { s with scan := .string (pieceOfUnit value :: pieces) }
      else { s with scan := .hex pieces (left - 1) value }

def ofText? (cs : List Char) : Option (List Lexeme) := do
  let s ← cs.foldlM step? ⟨[], .between⟩
  let done ← close? s
  return done.reverse

end Lexeme
end SavedFilter
