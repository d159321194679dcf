import SavedFilter.Proofs.Date
import SavedFilter.Proofs.Json.Text
import SavedFilter.Stored.Filter
import SavedFilter.Stored.Operand
import SavedFilter.Stored.Schema

/-! # Stored records are read back

Each record is read from every tree of what is stored of it, whatever order the members are in and
whatever is escaped: parts that are left out have the defaults that they are left out for, and the
name of every kind is read as the kind. The texts of records are read as such trees, so a filter, a
schema or an operand that is stored is there again, `stored_records_restored`. A decimal may come
back with other places, as the same number. -/
set_option autoImplicit false
namespace SavedFilter

open Source

variable {levels : Nat}

/-! ## Filters -/

theorem Operator.reads (o : Operator) : Reads Operator.read levels o.toJson o := by
  intro source denotes
  rw [Operator.read, reads_name o.name source denotes]
  exact ofName?_name o

theorem Lookup.reads (l : Lookup) : Reads Lookup.read levels l.toJson l := by
  intro source denotes
  rw [Lookup.read, reads_name l.code source denotes]
  exact ofCode?_code l

/-- What is stored of a term; the parts that are empty are left out. -/
def Term.slots (t : Term) : List (String × Option Json) :=
  [("operator", some t.operator.toJson),
    ("fields", if t.fields.isEmpty then none else some (.array (t.fields.map .string))),
    ("lookup", t.lookup.map Lookup.toJson), ("value", t.value.map .string),
    ("order", some (orderJson t.order)), ("deleted", if t.deleted then some (.bool true) else none)]

theorem Term.toJson_eq (t : Term) : t.toJson = .object (membersOf t.slots) := by
  rw [toJson, slots]
  cases t.fields.isEmpty <;> cases t.lookup <;> cases t.value <;> cases t.deleted <;> rfl

theorem Term.reads (t : Term) : Reads Term.read (levels + 2) t.toJson t := by
  intro source denotes
  rw [toJson_eq] at denotes
  obtain ⟨p, parted, hold⟩ := parts?_membersOf
    ["operator", "fields", "lookup", "value", "order", "deleted"] (levels + 1) denotes rfl
    (by decide)
  have operator : p.get "operator" .plain Operator.read = some t.operator :=
    hold.get_present rfl t.operator.reads
  have fields : p.get "fields" [] (readList readText) = some t.fields := by
    refine hold.get rfl (fun value present => ?_) fun leftOut => ?_
    · rw [Option.ite_none_left_eq_some] at present
      rw [← Option.some.inj present.2]
      exact reads_items fun s _ => reads_text s
    · cases all : t.fields with
      | nil => rfl
      | cons field more => simp [all] at leftOut
  have lookup : p.get "lookup" none (readNullable Lookup.read) = some t.lookup :=
    hold.get_nullable rfl Lookup.reads fun _ => rfl
  have value : p.get "value" none (readNullable readText) = some t.value :=
    hold.get_nullable rfl reads_text fun _ => rfl
  have order : p.get "order" 0 readUInt32 = some t.order :=
    hold.get_present rfl (reads_uint32 t.order)
  have deleted : p.get "deleted" false readBool = some t.deleted := by
    refine hold.get rfl (fun value present => ?_) fun leftOut => ?_
    · rw [Option.ite_none_right_eq_some] at present
      rw [present.1, ← Option.some.inj present.2]
      exact reads_bool true
    · cases marked : t.deleted with
      | false => rfl
      | true => simp [marked] at leftOut
  simp [Term.read, parted, operator, fields, lookup, value, order, deleted]

/-! ## Columns, sort keys and filters -/

theorem reads_fieldOrder (field : String) (order : UInt32) :
    Reads readFieldOrder (levels + 1) (fieldOrderJson field order) (field, order) := by
  intro source denotes
  obtain ⟨p, parted, hold⟩ := parts?_object ["field", "order"] levels denotes rfl (by decide)
  have fieldRead : p.need "field" readText = some field := hold.need rfl (reads_text field)
  have orderRead : p.get "order" 0 readUInt32 = some order :=
    hold.get_present rfl (reads_uint32 order)
  simp [readFieldOrder, parted, fieldRead, orderRead]

theorem Column.reads (c : Column) : Reads Column.read (levels + 1) c.toJson c := by
  intro source denotes
  rw [Column.read, reads_fieldOrder c.field c.order source denotes]
  rfl

theorem SortKey.reads (k : SortKey) : Reads SortKey.read (levels + 1) k.toJson k := by
  intro source denotes
  rw [SortKey.read, reads_fieldOrder k.field k.order source denotes]
  rfl

theorem Filter.reads (f : Filter) : Reads Filter.read (levels + 4) f.toJson f := by
  intro source denotes
  obtain ⟨p, parted, hold⟩ := parts?_object
    ["name", "model", "owner", "is_global", "terms", "columns", "sort_orders"] (levels + 3) denotes
    rfl (by decide)
  have name : p.get "name" "Report" readText = some f.name :=
    hold.get_present rfl (reads_text f.name)
  have model : p.need "model" readText = some f.model := hold.need rfl (reads_text f.model)
  have owner : p.get "owner" "" readText = some f.owner :=
    hold.get_present rfl (reads_text f.owner)
  have isGlobal : p.get "is_global" false readBool = some f.isGlobal :=
    hold.get_present rfl (reads_bool f.isGlobal)
  have terms : p.get "terms" [] (readList Term.read) = some f.terms :=
    hold.get_present rfl (reads_items fun t _ => t.reads)
  have columns : p.get "columns" [] (readList Column.read) = some f.columns :=
    hold.get_present rfl (reads_items fun c _ => c.reads)
  have sortKeys : p.get "sort_orders" [] (readList SortKey.read) = some f.sortKeys :=
    hold.get_present rfl (reads_items fun k _ => k.reads)
  simp [Filter.read, parted, name, model, owner, isGlobal, terms, columns, sortKeys]

/-! ## Schemas -/

theorem FieldEntry.reads (e : FieldEntry) : Reads FieldEntry.read (levels + 1) e.toJson e := by
  intro source denotes
  cases e with
  | path p =>
    obtain _ | _ | _ | read := denotes
    simp [FieldEntry.read, value?, read]
  | labeled p label =>
    obtain ⟨members, whole⟩ := value?_texts levels denotes (by simp)
    obtain ⟨parts, parted, hold⟩ := parts?_object ["path", "label"] levels denotes rfl (by decide)
    have pathRead : parts.need "path" readText = some p := hold.need rfl (reads_text p)
    have labelRead : parts.need "label" readText = some label := hold.need rfl (reads_text label)
    simp [FieldEntry.read, whole, parted, pathRead, labelRead]

theorem Relation.reads (r : Relation) : Reads Relation.read (levels + 1) r.toJson r := by
  intro source denotes
  obtain ⟨p, parted, hold⟩ := parts?_object
    ["name", "table", "local_key", "remote_key"] levels denotes rfl (by decide)
  have name : p.need "name" readText = some r.name := hold.need rfl (reads_text r.name)
  have table : p.need "table" readText = some r.table := hold.need rfl (reads_text r.table)
  have localKey : p.need "local_key" readText = some r.localKey :=
    hold.need rfl (reads_text r.localKey)
  have remoteKey : p.get "remote_key" "id" readText = some r.remoteKey :=
    hold.get_present rfl (reads_text r.remoteKey)
  simp [Relation.read, parted, name, table, localKey, remoteKey]

theorem Schema.reads (s : Schema) : Reads Schema.read (levels + 3) s.toJson s := by
  intro source denotes
  obtain ⟨p, parted, hold⟩ := parts?_object
    ["app", "name", "table", "fields", "relations", "proxy"] (levels + 2) denotes rfl (by decide)
  have app : p.need "app" readText = some s.app := hold.need rfl (reads_text s.app)
  have name : p.need "name" readText = some s.name := hold.need rfl (reads_text s.name)
  have table : p.need "table" readText = some s.table := hold.need rfl (reads_text s.table)
  have fields : p.get "fields" [] (readList FieldEntry.read) = some s.fields :=
    hold.get_present rfl (reads_items fun e _ => e.reads)
  have relations : p.get "relations" [] (readList Relation.read) = some s.relations :=
    hold.get_present rfl (reads_items fun r _ => r.reads)
  have isProxy : p.get "proxy" false readBool = some s.isProxy :=
    hold.get_present rfl (reads_bool s.isProxy)
  simp [Schema.read, parted, app, name, table, fields, relations, isProxy]

/-! ## Values and operands -/

theorem chars?_of_string {pieces : List Piece} {cs : List Char}
    (denotes : (Source.string pieces).Denotes (.string (String.ofList cs))) :
    Piece.chars? pieces = some cs := by
  obtain _ | _ | _ | read := denotes
  obtain ⟨cs', spelled, same⟩ := Option.map_eq_some_iff.mp read
  rw [spelled, String.ofList_injective same]

theorem reads_decimal (d : Decimal) :
    Reads Decimal.read levels (.string (toString d)) ((Decimal.ofText? d.toText).getD d) := by
  intro source denotes
  obtain ⟨d', read, _⟩ := Decimal.ofText?_toText d
  cases source with
  | string pieces =>
    rw [Decimal.read, chars?_of_string denotes, Option.bind_some, read]
    rfl
  | _ => cases denotes

theorem reads_date (d : Date) : Reads Date.read levels (.string (toString d)) d := by
  intro source denotes
  cases source with
  | string pieces => rw [Date.read, chars?_of_string denotes, Option.bind_some, d.ofStored?_toText]
  | _ => cases denotes

namespace Value

/-- The value that is read back: a decimal may have other places. -/
def restored : Value → Value
  | decimal d => decimal ((Decimal.ofText? d.toText).getD d)
  | v => v

/-- Decimals are the same as numbers, other values as they are. -/
def Same : Value → Value → Prop
  | decimal d, decimal d' => d.toRat = d'.toRat
  | v, v' => v = v'

theorem restored_same (v : Value) : v.restored.Same v := by
  cases v with
  | decimal d =>
    obtain ⟨d', read, same⟩ := Decimal.ofText?_toText d
    rw [restored, read]
    exact same
  | _ => rfl

theorem reads (v : Value) : Reads Value.read (levels + 1) v.toJson v.restored := by
  intro source denotes
  cases v with
  | integer n =>
    obtain ⟨inner, carried, holds⟩ := case?_single levels denotes
    simp [Value.read, carried, reads_int64 n inner holds, restored]
  | decimal d =>
    obtain ⟨inner, carried, holds⟩ := case?_single levels denotes
    simp [Value.read, carried, reads_decimal d inner holds, restored]
  | string s =>
    obtain ⟨inner, carried, holds⟩ := case?_single levels denotes
    simp [Value.read, carried, reads_text s inner holds, restored]
  | boolean b =>
    obtain ⟨inner, carried, holds⟩ := case?_single levels denotes
    simp [Value.read, carried, reads_bool b inner holds, restored]
  | date d =>
    obtain ⟨inner, carried, holds⟩ := case?_single levels denotes
    simp [Value.read, carried, reads_date d inner holds, restored]

end Value

namespace Operand

def restored : Operand → Operand
  | scalar v => scalar v.restored
  | range first last => range first.restored last.restored
  | list vs => list (vs.map Value.restored)

def Same : Operand → Operand → Prop
  | scalar v, scalar w => v.Same w
  | range first last, range first' last' => first.Same first' ∧ last.Same last'
  | list vs, list ws => List.Forall₂ Value.Same vs ws
  | _, _ => False

theorem restored_same (o : Operand) : o.restored.Same o := by
  cases o with
  | scalar v => exact v.restored_same
  | range first last => exact ⟨first.restored_same, last.restored_same⟩
  | list vs =>
    change List.Forall₂ Value.Same (vs.map Value.restored) vs
    rw [List.forall₂_map_left_iff, List.forall₂_same]
    intro v _
    exact v.restored_same

theorem reads (o : Operand) : Reads Operand.read (levels + 3) o.toJson o.restored := by
  intro source denotes
  cases o with
  | scalar v =>
    obtain ⟨inner, carried, holds⟩ := case?_single (levels + 2) denotes
    simp [Operand.read, carried, v.reads inner holds, restored]
  | range first last =>
    obtain ⟨inner, carried, holds⟩ := case?_single (levels + 2) denotes
    have bounds : readList Value.read (levels + 2) inner = some [first.restored, last.restored] :=
      reads_list (fun v (_ : v ∈ [first, last]) => v.reads) inner holds
    simp [Operand.read, carried, bounds, restored]
  | list vs =>
    obtain ⟨inner, carried, holds⟩ := case?_single (levels + 2) denotes
    have items : readList Value.read (levels + 2) inner = some (vs.map Value.restored) :=
      reads_list (fun v _ => v.reads) inner holds
    simp [Operand.read, carried, items, restored]

end Operand

/-! ## Stored records and their texts -/

theorem wholeNumbers_order (order : UInt32) : (orderJson order).WholeNumbers := by
  have bound : order.toNat < UInt32.size := order.toNat_lt
  have size : UInt32.size ≤ UInt64.size := by decide
  refine .integer ?_ ?_ <;> omega

theorem Term.wholeNumbers (t : Term) : t.toJson.WholeNumbers := by
  rw [toJson_eq]
  refine wholeNumbers_membersOf ?_
  simp only [slots, List.forall_mem_cons]
  refine ⟨?_, ?_, ?_, ?_, ?_, ?_, by simp⟩
  · rintro _ ⟨⟩
    exact .string t.operator.name
  · intro v stored
    rw [Option.ite_none_left_eq_some] at stored
    rw [← Option.some.inj stored.2]
    exact wholeNumbers_list fun field _ => .string field
  · intro v stored
    obtain ⟨l, _, rfl⟩ := Option.map_eq_some_iff.mp stored
    exact .string l.code
  · intro v stored
    obtain ⟨text, _, rfl⟩ := Option.map_eq_some_iff.mp stored
    exact .string text
  · rintro _ ⟨⟩
    exact wholeNumbers_order t.order
  · intro v stored
    rw [Option.ite_none_right_eq_some] at stored
    rw [← Option.some.inj stored.2]
    exact .bool true

theorem wholeNumbers_fieldOrder (field : String) (order : UInt32) :
    (fieldOrderJson field order).WholeNumbers := by
  refine .object ?_
  simp only [List.forall_mem_cons]
  exact ⟨.string field, wholeNumbers_order order, by simp⟩

theorem Filter.wholeNumbers (f : Filter) : f.toJson.WholeNumbers := by
  have terms : (Json.array (f.terms.map Term.toJson)).WholeNumbers :=
    wholeNumbers_list fun t _ => t.wholeNumbers
  have columns : (Json.array (f.columns.map Column.toJson)).WholeNumbers :=
    wholeNumbers_list fun c _ => wholeNumbers_fieldOrder c.field c.order
  have sortKeys : (Json.array (f.sortKeys.map SortKey.toJson)).WholeNumbers :=
    wholeNumbers_list fun k _ => wholeNumbers_fieldOrder k.field k.order
  refine .object ?_
  simp only [List.forall_mem_cons]
  exact ⟨.string f.name, .string f.model, .string f.owner, .bool f.isGlobal, terms, columns,
    sortKeys, by simp⟩

theorem FieldEntry.wholeNumbers (e : FieldEntry) : e.toJson.WholeNumbers := by
  cases e with
  | path p => exact .string p
  | labeled p label =>
    refine .object ?_
    simp only [List.forall_mem_cons]
    exact ⟨.string p, .string label, by simp⟩

theorem Relation.wholeNumbers (r : Relation) : r.toJson.WholeNumbers := by
  refine .object ?_
  simp only [List.forall_mem_cons]
  exact ⟨.string r.name, .string r.table, .string r.localKey, .string r.remoteKey, by simp⟩

theorem Schema.wholeNumbers (s : Schema) : s.toJson.WholeNumbers := by
  have fields : (Json.array (s.fields.map FieldEntry.toJson)).WholeNumbers :=
    wholeNumbers_list fun e _ => e.wholeNumbers
  have relations : (Json.array (s.relations.map Relation.toJson)).WholeNumbers :=
    wholeNumbers_list fun r _ => r.wholeNumbers
  refine .object ?_
  simp only [List.forall_mem_cons]
  exact ⟨.string s.app, .string s.name, .string s.table, fields, relations, .bool s.isProxy,
    by simp⟩

theorem wholeNumbers_case {name : String} {content : Json} (whole : content.WholeNumbers) :
    (Json.object [(name, content)]).WholeNumbers := by
  refine .object ?_
  simpa using whole

theorem Value.wholeNumbers (v : Value) : v.toJson.WholeNumbers := by
  cases v with
  | integer n =>
    have least : (-9223372036854775808 : Int) ≤ n.toInt := n.minValue_le_toInt
    have most : n.toInt ≤ (9223372036854775807 : Int) := n.toInt_le
    refine wholeNumbers_case (.integer ?_ ?_)
    · exact least
    · exact Int.lt_of_le_of_lt most (by decide)
  | decimal d => exact wholeNumbers_case (.string _)
  | string s => exact wholeNumbers_case (.string s)
  | boolean b => exact wholeNumbers_case (.bool b)
  | date d => exact wholeNumbers_case (.string _)

theorem Operand.wholeNumbers (o : Operand) : o.toJson.WholeNumbers := by
  cases o with
  | scalar v => exact wholeNumbers_case v.wholeNumbers
  | range first last =>
    exact wholeNumbers_case
      (wholeNumbers_list fun v (_ : v ∈ [first, last]) => v.wholeNumbers)
  | list vs => exact wholeNumbers_case (wholeNumbers_list fun v _ => v.wholeNumbers)

/-- Stored records are read back as they were, decimals as the same numbers: from every tree of
what is stored of them, and from its text. -/
theorem stored_records_restored :
    (∀ f : Filter, Reads Filter.read bracketLimit f.toJson f ∧
      Filter.ofText? f.toJson.compact = some f) ∧
    (∀ s : Schema, Reads Schema.read bracketLimit s.toJson s ∧
      readWhole Schema.read s.toJson.compact = some s) ∧
    ∀ o : Operand, ∃ o' : Operand, o'.Same o ∧ Reads Operand.read bracketLimit o.toJson o' ∧
      readWhole Operand.read o.toJson.compact = some o' := by
  refine ⟨?_, ?_, ?_⟩
  · intro f
    exact ⟨f.reads, readWhole_compact f.reads f.wholeNumbers⟩
  · intro s
    exact ⟨s.reads, readWhole_compact s.reads s.wholeNumbers⟩
  · intro o
    exact ⟨o.restored, o.restored_same, o.reads, readWhole_compact o.reads o.wholeNumbers⟩

/-- A connective that carries a field, and a deleted condition that has none. -/
def keptMarks : Filter where
  model := "shop.Order"
  terms := [{ operator := .and, fields := ["state"], order := 1 },
    { lookup := some .equals, deleted := true }]

def keptMarksText : String :=
  "\x7b\"name\":\"Report\",\"model\":\"shop.Order\",\"owner\":\"\",\"is_global\":false," ++
    "\"terms\":[\x7b\"operator\":\"and\",\"fields\":[\"state\"],\"order\":1\x7d," ++
    "\x7b\"operator\":\"none\",\"lookup\":\"=\",\"order\":0,\"deleted\":true\x7d]," ++
    "\"columns\":[],\"sort_orders\":[]\x7d"

theorem stored_records_restored_marks :
    keptMarks.toJson.compact = keptMarksText ∧ Filter.ofText? keptMarksText = some keptMarks := by
  have text : keptMarks.toJson.compact = keptMarksText := by decide +kernel
  have restored := (stored_records_restored.1 keptMarks).2
  rw [text] at restored
  exact ⟨text, restored⟩

end SavedFilter
