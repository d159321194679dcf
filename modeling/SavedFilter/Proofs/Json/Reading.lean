import Mathlib.Data.List.Forall2
import SavedFilter.Json.Record

/-! # What is read of a JSON value

A source tree denotes a JSON value: its strings and whole numbers are the ones of the value, with
whatever escapes, and its objects list their members in whatever order, `Denotes`. A reading gets
something of a value if it gets that of every tree that denotes the value, `Reads`. The readings of
records do not look at the order of members, `parts?_object`. -/
set_option autoImplicit false
namespace SavedFilter.Source

/-! ## The value of a source tree -/

inductive Denotes : Source → Json → Prop
  | null : Denotes .null .null
  | bool (b : Bool) : Denotes (.bool b) (.bool b)
  | integer {l : NumberLiteral} {n : Int} (read : l.integer? = some n) :
      Denotes (.number l) (.integer n)
  | string {pieces : List Piece} {s : String} (read : Piece.text? pieces = some s) :
      Denotes (.string pieces) (.string s)
  | array {sources : List Source} {values : List Json}
      (items : List.Forall₂ Denotes sources values) : Denotes (.array sources) (.array values)
  | object {written : List (List Piece × Source)} {named : List (String × Source)}
      {ordered members : List (String × Json)} (names : namedMembers? written = some named)
      (same : named.map Prod.fst = ordered.map Prod.fst)
      (values : List.Forall₂ Denotes (named.map Prod.snd) (ordered.map Prod.snd))
      (order : ordered.Perm members) : Denotes (.object written) (.object members)

theorem Denotes.item {source : Source} {value : Json} {sources : List Source} {values : List Json}
    (rest : Denotes (.array sources) (.array values)) (first : source.Denotes value) :
    Denotes (.array (source :: sources)) (.array (value :: values)) := by
  obtain _ | _ | _ | _ | items := rest
  exact .array (.cons first items)

theorem denotes_noMembers : Denotes (.object []) (.object []) :=
  .object (by rfl : namedMembers? [] = some []) rfl .nil .nil

theorem Denotes.member {pieces : List Piece} {name : String} {source : Source} {value : Json}
    {written : List (List Piece × Source)} {members : List (String × Json)}
    (rest : Denotes (.object written) (.object members)) (named : Piece.text? pieces = some name)
    (first : source.Denotes value) :
    Denotes (.object ((pieces, source) :: written)) (.object ((name, value) :: members)) := by
  obtain _ | _ | _ | _ | _ | ⟨read, same, values, order⟩ := rest
  rename_i others ordered
  have names : namedMembers? ((pieces, source) :: written) = some ((name, source) :: others) := by
    rw [namedMembers?] at read
    simp [namedMembers?, named, read]
  refine .object names ?_ ?_ (order.cons (name, value))
  · rw [List.map_cons, List.map_cons, same]
  · exact .cons first values

/-- Every tree of the value is read as `a`. -/
def Reads {α : Type} (read : Reading α) (levels : Nat) (value : Json) (a : α) : Prop :=
  ∀ source, source.Denotes value → read levels source = some a

section Words

variable {levels : Nat}

theorem reads_bool (b : Bool) : Reads readBool levels (.bool b) b := by
  rintro _ ⟨⟩
  rfl

theorem reads_text (s : String) : Reads readText levels (.string s) s := by
  rintro _ (_ | _ | _ | read)
  exact read

theorem reads_name (s : String) : Reads readName levels (.string s) s := by
  rintro _ (_ | _ | _ | read)
  simp [readName, case?, read]

theorem reads_int64 (n : Int64) : Reads readInt64 levels (.integer n.toInt) n := by
  rintro _ (_ | _ | read)
  simp [readInt64, read, int64?_toInt]

theorem reads_uint32 (n : UInt32) : Reads readUInt32 levels (.integer n.toNat) n := by
  rintro _ (_ | _ | read)
  have fits : 0 ≤ (n.toNat : Int) ∧ (n.toNat : Int) < UInt32.size :=
    ⟨Int.natCast_nonneg _, Int.ofNat_lt.mpr n.toNat_lt⟩
  rw [readUInt32, read, Option.bind_some, if_pos fits, Int.toNat_natCast, UInt32.ofNat_toNat]

end Words

section Parts

variable {α β : Type} {read : Reading α} {levels : Nat}

theorem Reads.nullable {value : Json} {a : α} (reads : Reads read levels value a)
    (present : value.isNull = false) : Reads (readNullable read) levels value (some a) := by
  intro source denotes
  rw [readNullable.eq_def]
  split
  · cases denotes
    cases present
  · rw [reads source denotes]
    rfl

/-- A list is read as what is restored of its items. -/
theorem reads_list {write : β → Json} {restored : β → α} {xs : List β}
    (reads : ∀ x ∈ xs, Reads read levels (write x) (restored x)) :
    Reads (readList read) (levels + 1) (.array (xs.map write)) (xs.map restored) := by
  rintro _ (_ | _ | _ | _ | items)
  rename_i sources
  change sources.mapM (read levels) = some (xs.map restored)
  induction xs generalizing sources with
  | nil =>
    cases items
    rfl
  | cons x xs ih =>
    cases items with
    | cons first later =>
      rw [List.mapM_cons, reads x List.mem_cons_self _ first,
        ih (fun y member => reads y (List.mem_cons_of_mem _ member)) later]
      rfl

theorem reads_items {write : α → Json} {xs : List α}
    (reads : ∀ x ∈ xs, Reads read levels (write x) x) :
    Reads (readList read) (levels + 1) (.array (xs.map write)) xs := by
  have listed := reads_list reads
  rwa [List.map_id'] at listed

theorem forall₂_namedMembers? {written : List (List Piece × Source)}
    {named : List (String × Source)} (read : namedMembers? written = some named) :
    List.Forall₂ (fun w m => Piece.text? w.1 = some m.1 ∧ w.2 = m.2) written named := by
  induction written generalizing named with
  | nil =>
    cases read
    exact .nil
  | cons w written ih =>
    obtain ⟨pieces, source⟩ := w
    rw [namedMembers?, List.mapM_cons] at read
    simp only [Option.bind_eq_bind, Option.bind_eq_some_iff, Option.map_eq_some_iff] at read
    obtain ⟨_, ⟨name, first, rfl⟩, later, rest, listed⟩ := read
    obtain rfl : (name, source) :: later = named := Option.some.inj listed
    exact .cons ⟨first, rfl⟩ (ih rest)

/-- An object with one member names a case and holds what the case carries. -/
theorem case?_single (levels : Nat) {source : Source} {name : String} {content : Json}
    (denotes : source.Denotes (.object [(name, content)])) :
    ∃ inner, source.case? (levels + 1) = some (name, some (levels, inner)) ∧
      inner.Denotes content := by
  obtain _ | _ | _ | _ | _ | ⟨read, same, values, order⟩ := denotes
  rename_i written named ordered
  obtain rfl := List.perm_singleton.mp order
  obtain ⟨⟨_, inner⟩, rfl, rfl⟩ := List.map_eq_singleton_iff.mp same
  obtain _ | ⟨holds, _⟩ := values
  obtain _ | ⟨⟨first, rfl⟩, _ | _⟩ := forall₂_namedMembers? read
  exact ⟨_, by simp [case?, first], holds⟩

theorem members?_texts {written : List (List Piece × Source)} {named : List (String × Source)}
    {ordered : List (String × Json)} (read : namedMembers? written = some named)
    (values : List.Forall₂ Denotes (named.map Prod.snd) (ordered.map Prod.snd))
    (texts : ∀ m ∈ ordered, ∃ s, m.2 = .string s) :
    ∃ members, members? levels written = some members := by
  have spelled := forall₂_namedMembers? read
  clear read
  induction spelled generalizing ordered with
  | nil => exact ⟨[], rfl⟩
  | @cons w m written named spelled _ ih =>
    obtain ⟨pieces, _⟩ := w
    obtain ⟨name, source⟩ := m
    obtain ⟨first, rfl⟩ : Piece.text? pieces = some name ∧ _ = source := spelled
    cases ordered with
    | nil => cases values
    | cons o ordered =>
      obtain _ | ⟨denotes, later⟩ := values
      obtain ⟨members, rest⟩ := ih later fun m member => texts m (List.mem_cons_of_mem o member)
      obtain ⟨s, text⟩ := texts o List.mem_cons_self
      rw [text] at denotes
      obtain _ | _ | _ | read := denotes
      exact ⟨(name, .string s) :: members, by simp [members?, value?, first, read, rest]⟩

/-- An object of texts is a value as a whole. -/
theorem value?_texts (levels : Nat) {source : Source} {members : List (String × Json)}
    (denotes : source.Denotes (.object members)) (texts : ∀ m ∈ members, ∃ s, m.2 = .string s) :
    ∃ read, source.value? (levels + 1) = some (.object read) := by
  obtain _ | _ | _ | _ | _ | ⟨read, same, values, order⟩ := denotes
  obtain ⟨held, allHeld⟩ : ∃ held, members? levels _ = some held :=
    members?_texts read values fun m member => texts m (order.subset member)
  exact ⟨Json.sortedMembers held, by simp [value?, allHeld]⟩

/-! ## The parts of a record -/

/-- The members of a record, less the parts that are left out. -/
def membersOf (slots : List (String × Option Json)) : List (String × Json) :=
  slots.filterMap fun (name, value) => value.map (name, ·)

/-- The parts of a record denote those of a list, and the same ones are left out. -/
structure Parts.Hold (p : Parts) (levels : Nat) (slots : List (String × Option Json)) : Prop where
  within : p.levels = levels
  denotes : ∀ name, Option.Rel Denotes (p.parts.lookup name) (slots.lookup name).join

variable {members : List (String × Json)} {slots : List (String × Option Json)}

theorem names_membersOf (slots : List (String × Option Json)) :
    ((membersOf slots).map Prod.fst).Sublist (slots.map Prod.fst) := by
  induction slots with
  | nil => exact .slnil
  | cons slot slots ih =>
    obtain ⟨name, _ | value⟩ := slot
    · exact ih.cons name
    · exact ih.cons_cons name

theorem lookup_membersOf (distinct : (slots.map Prod.fst).Nodup) (name : String) :
    (membersOf slots).lookup name = (slots.lookup name).join := by
  induction slots with
  | nil => rfl
  | cons slot slots ih =>
    rw [List.map_cons, List.nodup_cons] at distinct
    obtain ⟨key, _ | value⟩ := slot
    · change (membersOf slots).lookup name = _
      rw [List.lookup_cons, ih distinct.2]
      by_cases same : name = key
      · subst same
        have absent : slots.lookup name = none := by
          rw [List.lookup_eq_none_iff]
          intro slot member
          rw [bne_iff_ne]
          rintro rfl
          exact distinct.1 (List.mem_map.mpr ⟨slot, member, rfl⟩)
        simp [absent]
      · simp [beq_false_of_ne same]
    · change ((key, value) :: membersOf slots).lookup name = _
      rw [List.lookup_cons, List.lookup_cons, ih distinct.2]
      cases name == key <;> rfl

theorem lookup_perm {ordered : List (String × Json)} (order : ordered.Perm members)
    (distinct : (members.map Prod.fst).Nodup) (name : String) :
    ordered.lookup name = members.lookup name := by
  induction order with
  | nil => rfl
  | cons m order ih =>
    obtain ⟨m, value⟩ := m
    rw [List.map_cons, List.nodup_cons] at distinct
    rw [List.lookup_cons, List.lookup_cons, ih distinct.2]
  | swap m n rest =>
    have apart : m.1 ≠ n.1 := by
      rintro same
      simp [same] at distinct
    obtain ⟨m, value⟩ := m
    obtain ⟨n, value'⟩ := n
    rw [List.lookup_cons, List.lookup_cons, List.lookup_cons, List.lookup_cons]
    by_cases sameName : name = m
    · subst sameName
      simp only [beq_self_eq_true, beq_false_of_ne apart]
    · simp only [beq_false_of_ne sameName]
  | trans first second ihFirst ihSecond =>
    rw [ihFirst ((second.map Prod.fst).nodup_iff.mpr distinct), ihSecond distinct]

theorem rel_lookup {named : List (String × Source)} {ordered : List (String × Json)}
    (same : named.map Prod.fst = ordered.map Prod.fst)
    (values : List.Forall₂ Denotes (named.map Prod.snd) (ordered.map Prod.snd)) (name : String) :
    Option.Rel Denotes (named.lookup name) (ordered.lookup name) := by
  induction named generalizing ordered with
  | nil =>
    obtain rfl : ordered = [] := by simpa using same.symm
    exact .none
  | cons part named ih =>
    obtain ⟨member, ordered, rfl⟩ : ∃ member rest, ordered = member :: rest := by
      cases ordered with
      | nil => cases same
      | cons member rest => exact ⟨member, rest, rfl⟩
    rw [List.map_cons, List.map_cons] at same values
    obtain ⟨key, source⟩ := part
    obtain ⟨key', value⟩ := member
    obtain ⟨rfl, others⟩ : key = key' ∧ named.map Prod.fst = ordered.map Prod.fst :=
      List.cons.inj same
    cases values with
    | cons first later =>
      rw [List.lookup_cons, List.lookup_cons]
      split
      · exact .some first
      · exact ih others later

/-- A record gets its parts from an object that lists them in any order. -/
theorem parts?_membersOf (names : List String) (levels : Nat) {source : Source}
    (denotes : source.Denotes (.object (membersOf slots))) (namedSo : slots.map Prod.fst = names)
    (distinct : names.Nodup) :
    ∃ p, parts? names (levels + 1) source = some p ∧ p.Hold levels slots := by
  subst namedSo
  have known := names_membersOf slots
  obtain _ | _ | _ | _ | _ | ⟨read, same, values, order⟩ := denotes
  rename_i written named ordered
  have once : (named.map Prod.fst).Nodup := by
    rw [same, (order.map Prod.fst).nodup_iff]
    exact known.nodup distinct
  have allKnown : named.filter (fun m => (slots.map Prod.fst).contains m.1) = named := by
    rw [List.filter_eq_self]
    intro part member
    have listed : part.1 ∈ (membersOf slots).map Prod.fst := by
      rw [← (order.map Prod.fst).mem_iff, ← same]
      exact List.mem_map_of_mem member
    exact List.contains_iff_mem.mpr (known.subset listed)
  refine ⟨⟨levels, named⟩, ?_, rfl, fun name => ?_⟩
  · simp only [parts?, read, Option.bind_eq_bind, Option.bind_some, allKnown, if_pos once]
    rfl
  · rw [← lookup_membersOf distinct, ← lookup_perm order (known.nodup distinct)]
    exact rel_lookup same values name

theorem membersOf_map_some (members : List (String × Json)) :
    membersOf (members.map (Prod.map id some)) = members := by
  rw [membersOf, List.filterMap_map]
  exact List.filterMap_some

/-- The same when no part is left out. -/
theorem parts?_object (names : List String) (levels : Nat) {source : Source}
    (denotes : source.Denotes (.object members)) (namedSo : members.map Prod.fst = names)
    (distinct : names.Nodup) :
    ∃ p, parts? names (levels + 1) source = some p ∧
      p.Hold levels (members.map (Prod.map id some)) := by
  rw [← membersOf_map_some members] at denotes
  exact parts?_membersOf names levels denotes (by rw [← namedSo, List.map_map]; rfl) distinct

namespace Parts

variable {p : Parts} {name : String} {a : α}

theorem Hold.need (hold : p.Hold levels slots) {value : Json}
    (present : slots.lookup name = some (some value)) (reads : Reads read levels value a) :
    p.need name read = some a := by
  have rel := hold.denotes name
  rw [present] at rel
  rw [Parts.need, hold.within]
  generalize p.parts.lookup name = found at rel ⊢
  cases rel with
  | some denotes => exact reads _ denotes

/-- A part that may be left out is read, or else the record has its default. -/
theorem Hold.get (hold : p.Hold levels slots) {default : α} {slot : Option Json}
    (listed : slots.lookup name = some slot)
    (reads : ∀ value, slot = some value → Reads read levels value a)
    (leftOut : slot = none → default = a) : p.get name default read = some a := by
  have rel := hold.denotes name
  rw [listed, Option.join_some] at rel
  rw [Parts.get, hold.within]
  generalize p.parts.lookup name = found at rel ⊢
  cases rel with
  | none => exact congrArg some (leftOut rfl)
  | some denotes => exact reads _ rfl _ denotes

theorem Hold.get_present (hold : p.Hold levels slots) {default : α} {value : Json}
    (listed : slots.lookup name = some (some value)) (reads : Reads read levels value a) :
    p.get name default read = some a :=
  hold.get listed (fun _ present => Option.some.inj present ▸ reads) nofun

/-- A value that may be missing is left out when it is. -/
theorem Hold.get_nullable (hold : p.Hold levels slots) {write : α → Json} {a? : Option α}
    (listed : slots.lookup name = some (a?.map write))
    (reads : ∀ a, Reads read levels (write a) a) (present : ∀ a, (write a).isNull = false) :
    p.get name none (readNullable read) = some a? := by
  refine hold.get listed (fun value stored => ?_) fun leftOut => ?_
  · obtain ⟨a, rfl, rfl⟩ := Option.map_eq_some_iff.mp stored
    exact (reads a).nullable (present a)
  · exact (Option.map_eq_none_iff.mp leftOut).symm

end Parts

end Parts

end SavedFilter.Source
