import SavedFilter.Json.Lexeme

/-! # Reading source trees

One pass over the lexemes with a stack of the arrays and objects that are still open. -/
set_option autoImplicit false
namespace SavedFilter

/-- An array or object that is still open, its parts last first. An object waits for the value
of its last name. -/
inductive OpenPart where
  | array (items : List Source)
  | object (members : List (List Piece × Source)) (name : List Piece)

/-- What may come next: a value; a value or the end of an empty array; a name; a name or the end
of an empty object; the colon after a name; or what follows a complete value. -/
inductive Awaited where
  | value
  | firstItem
  | name (members : List (List Piece × Source))
  | firstName
  | colon (members : List (List Piece × Source)) (name : List Piece)
  | after (value : Source)

structure Reader where
  opened : List OpenPart
  awaited : Awaited

namespace Reader

def begin? (opened : List OpenPart) : Lexeme → Option Reader
  | .null => some ⟨opened, .after .null⟩
  | .bool b => some ⟨opened, .after (.bool b)⟩
  | .number l => some ⟨opened, .after (.number l)⟩
  | .string pieces => some ⟨opened, .after (.string pieces)⟩
  | .openArray => some ⟨.array [] :: opened, .firstItem⟩
  | .openObject => some ⟨opened, .firstName⟩
  | _ => none

def name? (opened : List OpenPart) (members : List (List Piece × Source)) :
    Lexeme → Option Reader
  | .string pieces => some ⟨opened, .colon members pieces⟩
  | _ => none

/-- The innermost open part goes on or ends after a complete value. -/
def next? (opened : List OpenPart) (value : Source) (lexeme : Lexeme) : Option Reader :=
  match opened, lexeme with
  | .array items :: opened, .comma => some ⟨.array (value :: items) :: opened, .value⟩
  | .array items :: opened, .closeArray =>
    some ⟨opened, .after (.array (value :: items).reverse)⟩
  | .object members name :: opened, .comma => some ⟨opened, .name ((name, value) :: members)⟩
  | .object members name :: opened, .closeObject =>
    some ⟨opened, .after (.object ((name, value) :: members).reverse)⟩
  | _, _ => none

def step? (r : Reader) (lexeme : Lexeme) : Option Reader :=
  match r.awaited with
  | .value => begin? r.opened lexeme
  | .firstItem =>
    match r.opened, lexeme with
    | .array _ :: opened, .closeArray => some ⟨opened, .after (.array [])⟩
    | _, _ => begin? r.opened lexeme
  | .name members => name? r.opened members lexeme
  | .firstName =>
    match lexeme with
    | .closeObject => some ⟨r.opened, .after (.object [])⟩
    | _ => name? r.opened [] lexeme
  | .colon members name =>
    match lexeme with
    | .colon => some ⟨.object members name :: r.opened, .value⟩
    | _ => none
  | .after value => next? r.opened value lexeme

end Reader

namespace Source

def ofLexemes? (lexemes : List Lexeme) : Option Source :=
  match lexemes.foldlM Reader.step? ⟨[], .value⟩ with
  | some ⟨[], .after value⟩ => some value
  | _ => none

def ofText? (s : String) : Option Source := (Lexeme.ofText? s.toList).bind ofLexemes?

end Source

def Json.ofText? (s : String) : Option Json :=
  (Source.ofText? s).bind (Source.value? Source.bracketLimit)

end SavedFilter
