import SavedFilter.Filter
import SavedFilter.Json.Record

/-! # Stored filters

The JSON form of terms and filters. Every part of a term may be left out, and a filter needs only
its model. A term is stored without the parts that are empty. -/
set_option autoImplicit false
namespace SavedFilter

open Source

def Operator.toJson (o : Operator) : Json := .string o.name

def Operator.read : Reading Operator := fun levels source =>
  (readName levels source).bind ofName?

def Lookup.toJson (l : Lookup) : Json := .string l.code

def Lookup.read : Reading Lookup := fun levels source =>
  (readName levels source).bind ofCode?

def orderJson (order : UInt32) : Json := .integer order.toNat

def Term.toJson (t : Term) : Json :=
  .object
    ([("operator", t.operator.toJson)]
      ++ (if t.fields.isEmpty then [] else [("fields", .array (t.fields.map .string))])
      ++ (match t.lookup with | none => [] | some l => [("lookup", l.toJson)])
      ++ (match t.value with | none => [] | some s => [("value", .string s)])
      ++ [("order", orderJson t.order)]
      ++ (if t.deleted then [("deleted", .bool true)] else []))

def Term.read : Reading Term := fun levels source => do
  let p ← parts? ["operator", "fields", "lookup", "value", "order", "deleted"] levels source
  let operator ← p.get "operator" .plain Operator.read
  let fields ← p.get "fields" [] (readList readText)
  let lookup ← p.get "lookup" none (readNullable Lookup.read)
  let value ← p.get "value" none (readNullable readText)
  let order ← p.get "order" 0 readUInt32
  let deleted ← p.get "deleted" false readBool
  return { operator, fields, lookup, value, order, deleted }

def fieldOrderJson (field : String) (order : UInt32) : Json :=
  .object [("field", .string field), ("order", orderJson order)]

def readFieldOrder : Reading (String × UInt32) := fun levels source => do
  let p ← parts? ["field", "order"] levels source
  let field ← p.need "field" readText
  let order ← p.get "order" 0 readUInt32
  return (field, order)

def Column.toJson (c : Column) : Json := fieldOrderJson c.field c.order

def Column.read : Reading Column := fun levels source =>
  (readFieldOrder levels source).map fun (field, order) => ⟨field, order⟩

def SortKey.toJson (k : SortKey) : Json := fieldOrderJson k.field k.order

def SortKey.read : Reading SortKey := fun levels source =>
  (readFieldOrder levels source).map fun (field, order) => ⟨field, order⟩

def Filter.toJson (f : Filter) : Json :=
  .object
    [("name", .string f.name), ("model", .string f.model), ("owner", .string f.owner),
      ("is_global", .bool f.isGlobal), ("terms", .array (f.terms.map Term.toJson)),
      ("columns", .array (f.columns.map Column.toJson)),
      ("sort_orders", .array (f.sortKeys.map SortKey.toJson))]

def Filter.read : Reading Filter := fun levels source => do
  let p ← parts? ["name", "model", "owner", "is_global", "terms", "columns", "sort_orders"]
    levels source
  let name ← p.get "name" "Report" readText
  let model ← p.need "model" readText
  let owner ← p.get "owner" "" readText
  let isGlobal ← p.get "is_global" false readBool
  let terms ← p.get "terms" [] (readList Term.read)
  let columns ← p.get "columns" [] (readList Column.read)
  let sortKeys ← p.get "sort_orders" [] (readList SortKey.read)
  return { name, model, owner, isGlobal, terms, columns, sortKeys }

def Filter.ofText? (s : String) : Option Filter := readWhole Filter.read s

end SavedFilter
