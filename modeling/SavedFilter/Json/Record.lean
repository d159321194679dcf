import SavedFilter.Json.Reader

/-! # Reading records from source trees

Typed records are read from a source tree directly. A record is an object of its parts or an
array of them in their declared order; parts may be left out from the end of an array. Unknown
members are passed over whatever they hold, but a known one may not repeat. A reading is given
the number of brackets that may still be opened. -/
set_option autoImplicit false
namespace SavedFilter.Source

/-- Reads a source tree in which a number of brackets may be opened. -/
abbrev Reading (α : Type) := Nat → Source → Option α

def readBool : Reading Bool
  | _, bool b => some b
  | _, _ => none

def readText : Reading String
  | _, string pieces => Piece.text? pieces
  | _, _ => none

def readInt64 : Reading Int64
  | _, number l => l.integer?.bind int64?
  | _, _ => none

def readUInt32 : Reading UInt32
  | _, number l =>
    l.integer?.bind fun n =>
      if 0 ≤ n ∧ n < UInt32.size then some (UInt32.ofNat n.toNat) else none
  | _, _ => none

def readNullable {α : Type} (read : Reading α) : Reading (Option α)
  | _, null => some none
  | levels, source => (read levels source).map some

def readList {α : Type} (read : Reading α) : Reading (List α)
  | levels + 1, array items => items.mapM (read levels)
  | _, _ => none

/-- The parts of a record by name, and the brackets that may still be opened in them. -/
structure Parts where
  levels : Nat
  parts : List (String × Source)

def namedMembers? (members : List (List Piece × Source)) : Option (List (String × Source)) :=
  members.mapM fun (name, source) => (Piece.text? name).map (·, source)

def parts? (names : List String) (levels : Nat) (source : Source) : Option Parts :=
  match levels, source with
  | levels + 1, array items =>
    if names.length < items.length then none else some ⟨levels, names.zip items⟩
  | levels + 1, object members => do
    let members ← namedMembers? members
    let known := members.filter fun m => names.contains m.1
    if (known.map Prod.fst).Nodup then return ⟨levels, known⟩ else none
  | _, _ => none

namespace Parts

def need {α : Type} (p : Parts) (name : String) (read : Reading α) : Option α :=
  (p.parts.lookup name).bind (read p.levels)

def get {α : Type} (p : Parts) (name : String) (default : α) (read : Reading α) : Option α :=
  match p.parts.lookup name with
  | none => some default
  | some source => read p.levels source

end Parts

/-- A named case of several: the name alone, or an object of the name with what it carries. -/
def case? (levels : Nat) : Source → Option (String × Option (Nat × Source))
  | string pieces => (Piece.text? pieces).map (·, none)
  | object [(name, source)] =>
    match levels with
    | 0 => none
    | levels + 1 => (Piece.text? name).map (·, some (levels, source))
  | _ => none

def readName : Reading String := fun levels source =>
  match case? levels source with
  | some (name, none) => some name
  | some (name, some (_, null)) => some name
  | _ => none

def readWhole {α : Type} (read : Reading α) (s : String) : Option α :=
  (ofText? s).bind (read bracketLimit)

end SavedFilter.Source
