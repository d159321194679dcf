import SavedFilter.Json.Record
import SavedFilter.Operand

/-! # Stored values and operands

The JSON form of values and operands: the name of the kind with what it carries. Decimal numbers
and dates are stored as texts; a decimal may also be read from a JSON number, and from an object
that wraps a decimal under an agreed name. -/
set_option autoImplicit false
namespace SavedFilter

def Value.toJson : Value → Json
  | integer n => .object [("Int", .integer n.toInt)]
  | decimal d => .object [("Decimal", .string (toString d))]
  | string s => .object [("String", .string s)]
  | boolean b => .object [("Boolean", .bool b)]
  | date d => .object [("Date", .string (toString d))]

/-- The name of the only member of an object that wraps a decimal. -/
def Decimal.wrapperName : String := "$serde_json::private::Number"

/-- Reads a decimal from a text or a number, bare or wrapped any number of times. The name on a
wrapper has to be written without escapes. -/
def Decimal.read : Source.Reading Decimal
  | _, .string pieces => (Piece.chars? pieces).bind ofText?
  | _, .number l =>
    match l.value? with
    | some (.integer n) => some (.ofInt n)
    | some (.float x) => some x.toDecimal
    | _ => none
  | levels + 1, .object [(name, content)] =>
    if Piece.plain? name = some wrapperName then Decimal.read levels content else none
  | _, _ => none

def Date.read : Source.Reading Date
  | _, .string pieces => (Piece.chars? pieces).bind ofStored?
  | _, _ => none

def Value.read : Source.Reading Value := fun levels source =>
  match Source.case? levels source with
  | some (kind, some (levels, content)) =>
    match kind with
    | "Int" => (Source.readInt64 levels content).map .integer
    | "Decimal" => (Decimal.read levels content).map .decimal
    | "String" => (Source.readText levels content).map .string
    | "Boolean" => (Source.readBool levels content).map .boolean
    | "Date" => (Date.read levels content).map .date
    | _ => none
  | _ => none

def Operand.toJson : Operand → Json
  | scalar v => .object [("Scalar", v.toJson)]
  | range first last => .object [("Range", .array [first.toJson, last.toJson])]
  | list vs => .object [("List", .array (vs.map Value.toJson))]

def Operand.read : Source.Reading Operand := fun levels source =>
  match Source.case? levels source with
  | some (kind, some (levels, content)) =>
    match kind with
    | "Scalar" => (Value.read levels content).map .scalar
    | "Range" =>
      match Source.readList Value.read levels content with
      | some [first, last] => some (.range first last)
      | _ => none
    | "List" => (Source.readList Value.read levels content).map .list
    | _ => none
  | _ => none

end SavedFilter
