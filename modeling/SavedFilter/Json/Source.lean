import SavedFilter.Json.Number

/-! # JSON source trees

The structure of a JSON text before anything is decided about its parts. Members keep their
order and may repeat, strings keep their escapes and halves of surrogate pairs apart, numbers keep
their digits.
A part that nobody reads therefore cannot be refused for what it would mean.

Reading a part as a value decides: brackets may be nested to a limit, every half of a
surrogate pair needs the other half, and numbers must be finite. -/
set_option autoImplicit false
namespace SavedFilter

/-- One piece of a string: a character that stands for itself, one that was escaped, or half of a
surrogate pair that was escaped. -/
inductive Piece where
  | char (c : Char)
  | escaped (c : Char)
  | half (n : Nat)

inductive Source where
  | null
  | bool (b : Bool)
  | number (l : NumberLiteral)
  | string (pieces : List Piece)
  | array (items : List Source)
  | object (members : List (List Piece × Source))

namespace Piece

/-- The characters of a string, when every half of a pair stands beside its other half. -/
def chars? : List Piece → Option (List Char)
  | [] => some []
  | char c :: rest | escaped c :: rest => (chars? rest).map (c :: ·)
  | half high :: half low :: rest =>
    if high < 0xdc00 ∧ 0xdc00 ≤ low then
      (chars? rest).map (Char.ofNat (0x10000 + (high - 0xd800) * 0x400 + (low - 0xdc00)) :: ·)
    else none
  | half _ :: _ => none

def text? (pieces : List Piece) : Option String := (chars? pieces).map String.ofList

/-- The text of a string in which nothing is escaped. -/
def plain? (pieces : List Piece) : Option String :=
  (pieces.mapM fun | char c => some c | _ => none).map String.ofList

end Piece

namespace Source

def bracketLimit : Nat := 127

mutual

/-- The value of a source tree in which at most `levels` brackets are open at once. -/
def value? (levels : Nat) : Source → Option Json
  | null => some .null
  | bool b => some (.bool b)
  | number l => l.value?
  | string pieces => (Piece.text? pieces).map .string
  | array items =>
    match levels with
    | 0 => none
    | levels + 1 => (values? levels items).map .array
  | object members =>
    match levels with
    | 0 => none
    | levels + 1 => (members? levels members).map (.object ∘ Json.sortedMembers)

def values? (levels : Nat) : List Source → Option (List Json)
  | [] => some []
  | source :: rest => do
    let value ← value? levels source
    let values ← values? levels rest
    return value :: values

def members? (levels : Nat) : List (List Piece × Source) → Option (List (String × Json))
  | [] => some []
  | (name, source) :: rest => do
    let name ← Piece.text? name
    let value ← value? levels source
    let members ← members? levels rest
    return (name, value) :: members

end

end Source
end SavedFilter
