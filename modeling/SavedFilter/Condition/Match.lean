import SavedFilter.Condition.Basic
import SavedFilter.Json.Basic

/-! # Matching records

Whether a condition holds of a JSON record. A field path is followed one segment at a time
through the members of objects; an array on the way, or at its end, is opened one level, so a
path may reach several values, and a comparison holds when it holds of any of them. Only the null
checks ask about all of them: a field is null when every value it reaches is.

A value of the record is first read as the kind of value that it is compared with; a value that
cannot be read so satisfies no comparison. -/
set_option autoImplicit false
namespace SavedFilter

namespace Json

/-- The items of an array, and any other value by itself. -/
def opened : Json → List Json
  | array items => items
  | value => [value]

/-- The values that the members named by the segments lead to, arrays not opened at the end. -/
def follow : List String → List Json → List Json
  | [], values => values
  | segment :: rest, values =>
    follow rest ((values.flatMap opened).filterMap (member? segment))

def resolve (record : Json) (path : String) : List Json :=
  (follow (Field.segments path) [record]).flatMap opened

def toDate? : Json → Option Date
  | string s => Date.ofRecord? s.toList
  | _ => none

/-- The number that a value holds, or the text of a value is. -/
def toDecimal? : Json → Option Decimal
  | string s => Decimal.ofText? (Text.trim s.toList)
  | value@(integer _) | value@(float _) =>
    value.word?.bind fun s => Decimal.ofText? s.toList
  | _ => none

def asKindOf (json : Json) : Value → Option Value
  | .string _ => json.word?.map .string
  | .integer _ | .decimal _ => json.toDecimal?.map .decimal
  | .boolean _ =>
    match json with
    | bool b => some (.boolean b)
    | _ => none
  | .date _ => json.toDate?.map .date

def compareWith (json : Json) (v : Value) : Option Ordering :=
  (json.asKindOf v).bind (·.compare v)

def equals (json : Json) (v : Value) : Bool := json.compareWith v == some .eq

end Json

namespace Lookup

def matchesText (lookup : Lookup) (text needle : List Char) : Bool :=
  match lookup with
  | startsWith => needle.isPrefixOf text
  | endsWith => needle.isSuffixOf text
  | _ => Text.contains needle text

def datePart (lookup : Lookup) (d : Date) : Int :=
  match lookup with
  | year => d.year
  | month => d.month
  | _ => d.day

def accepts (lookup : Lookup) (o : Ordering) : Bool :=
  match lookup with
  | less => o == .lt
  | greater => o == .gt
  | atMost => o != .gt
  | _ => o != .lt

def holdsOf (lookup : Lookup) (json : Json) (v : Value) : Bool :=
  match lookup with
  | contains | startsWith | endsWith =>
    match json.word? with
    | some s => lookup.matchesText (Text.lower s.toList) (Text.lower v.text.toList)
    | none => false
  | year | month | day =>
    match json.toDate? with
    | some d => (Value.integer (Int64.ofInt (lookup.datePart d))).equal v
    | none => false
  | onDate =>
    match json.toDate? with
    | some d => (Value.date d).equal v
    | none => false
  | less | greater | atMost | atLeast =>
    match json.compareWith v with
    | some o => lookup.accepts o
    | none => false
  | _ => json.equals v

end Lookup

/-- A value of a record lies between two values, ends included. -/
def Json.isWithin (json : Json) (first last : Value) : Bool :=
  (match json.compareWith first with
    | some o => o != .lt
    | none => false) &&
  (match json.compareWith last with
    | some o => o != .gt
    | none => false)

def Operand.holdsOf (operand : Operand) (lookup : Lookup) (values : List Json) : Bool :=
  match lookup, operand with
  | .isNull, .scalar v | .isNotNull, .scalar v =>
    values.all Json.isNull == v.toBool?.getD true
  | _, .list vs => values.any fun json => vs.any json.equals
  | _, .range first last => values.any (·.isWithin first last)
  | _, .scalar v => values.any (lookup.holdsOf · v)

namespace Condition

def holds (record : Json) : Condition → Bool
  | always => true
  | compare field lookup operand => operand.holdsOf lookup (record.resolve field)
  | not c => !c.holds record
  | and left right => left.holds record && right.holds record
  | or left right => left.holds record || right.holds record

def select (c : Condition) (records : List Json) : List Json := records.filter (c.holds ·)

end Condition
end SavedFilter
