import SavedFilter.Json.Record
import SavedFilter.Schema

/-! # Stored schemas

The JSON form of schemas and of the file that lists them. A field entry is a text, or an object
with a path and a label. Unlike other records an entry cannot be an array of its parts, and it is
looked at as a whole, so every part of it must be a value. -/
set_option autoImplicit false
namespace SavedFilter

open Source

def FieldEntry.toJson : FieldEntry → Json
  | path p => .string p
  | labeled p label => .object [("path", .string p), ("label", .string label)]

def FieldEntry.read : Reading FieldEntry := fun levels source =>
  match source.value? levels with
  | some (.string p) => some (.path p)
  | some (.object _) => do
    let p ← parts? ["path", "label"] levels source
    let path ← p.need "path" readText
    let label ← p.need "label" readText
    return .labeled path label
  | _ => none

def Relation.toJson (r : Relation) : Json :=
  .object
    [("name", .string r.name), ("table", .string r.table), ("local_key", .string r.localKey),
      ("remote_key", .string r.remoteKey)]

def Relation.read : Reading Relation := fun levels source => do
  let p ← parts? ["name", "table", "local_key", "remote_key"] levels source
  let name ← p.need "name" readText
  let table ← p.need "table" readText
  let localKey ← p.need "local_key" readText
  let remoteKey ← p.get "remote_key" "id" readText
  return { name, table, localKey, remoteKey }

def Schema.toJson (s : Schema) : Json :=
  .object
    [("app", .string s.app), ("name", .string s.name), ("table", .string s.table),
      ("fields", .array (s.fields.map FieldEntry.toJson)),
      ("relations", .array (s.relations.map Relation.toJson)), ("proxy", .bool s.isProxy)]

def Schema.read : Reading Schema := fun levels source => do
  let p ← parts? ["app", "name", "table", "fields", "relations", "proxy"] levels source
  let app ← p.need "app" readText
  let name ← p.need "name" readText
  let table ← p.need "table" readText
  let fields ← p.get "fields" [] (readList FieldEntry.read)
  let relations ← p.get "relations" [] (readList Relation.read)
  let isProxy ← p.get "proxy" false readBool
  return { app, name, table, fields, relations, isProxy }

def readSchemas : Reading (List Schema) := fun levels source => do
  let p ← parts? ["models"] levels source
  p.get "models" [] (readList Schema.read)

end SavedFilter
