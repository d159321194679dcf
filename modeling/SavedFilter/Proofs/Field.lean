import SavedFilter.Field
import SavedFilter.Proofs.Sql.ConditionReading
import SavedFilter.Proofs.Text.Doubled

/-! # The two readings of a path

A record is walked along the segments of a path, which are cut off from the left, two underscores at
a time. A column is named by what stands around the last two underscores in a row. Both find the
same column unless the last underscores that stand together are an odd number of at least three: the
walk leaves the last of them to the name, and the column leaves the first of them to the relation,
`column_eq_walked_iff`. -/
set_option autoImplicit false
namespace SavedFilter

namespace Field

open Sql (ColumnRef)

variable {path : String}

/-- The reference spells the path: its table and its name stand around the last two underscores in a
row, or there are none, and then the name is the path and the table that of bare columns. -/
def Spells (base : Option String) (path : String) (c : ColumnRef) : Prop :=
  (∃ table, c.table = some table ∧ path = table ++ "__" ++ c.name ∧
      ¬ ['_', '_'] <:+: '_' :: c.name.toList) ∨
    c = ⟨base, path⟩ ∧ ¬ ['_', '_'] <:+: path.toList

/-- The last segment of a path behind the others, which have two underscores between them. -/
def walked (path : String) : ColumnRef :=
  let others := (segments path).dropLast
  ⟨if others = [] then none else some ("__".intercalate others), (segments path).getLastD path⟩

theorem walked_of_unsplit (unsplit : split? path = none) : walked path = ⟨none, path⟩ := by
  have undoubled : Text.splitAtLastDouble? '_' path.toList = none := by
    simpa [split?] using unsplit
  have one : segments path = [path] := by
    rw [segments, Text.splitOnDouble_undoubled undoubled]
    simp
  rw [walked, one]
  rfl

/-- Where pairs from the left end before the last segment, the walk has the text in front of it. -/
theorem walked_of_even {q m : List Char} (even : Text.trailing '_' q % 2 = 0)
    (undoubled : Text.splitAtLastDouble? '_' m = none) :
    walked (String.ofList (q ++ '_' :: '_' :: m)) = ⟨some (String.ofList q), String.ofList m⟩ := by
  have parted : segments (String.ofList (q ++ '_' :: '_' :: m)) =
      (Text.splitOnDouble '_' q).map String.ofList ++ [String.ofList m] := by
    rw [segments, String.toList_ofList, Text.splitOnDouble_append even undoubled, List.map_append]
    rfl
  have someBefore : (Text.splitOnDouble '_' q).map String.ofList ≠ [] := by
    simp [Text.splitOnDouble_ne_nil]
  have joined : "__".intercalate ((Text.splitOnDouble '_' q).map String.ofList) =
      String.ofList q := by
    apply String.toList_injective
    have parts : ((Text.splitOnDouble '_' q).map String.ofList).map String.toList =
        Text.splitOnDouble '_' q := by
      simp [List.map_map, Function.comp_def]
    rw [String.toList_intercalate, parts]
    exact (Text.intercalate_splitOnDouble q).trans String.toList_ofList.symm
  simp only [walked, parted, List.dropLast_concat, if_neg someBefore, joined,
    List.getLastD_concat]

theorem split?_eq_some {q n : String} (split : split? path = some (q, n)) :
    path = String.ofList (q.toList ++ '_' :: '_' :: n.toList) ∧
      Text.splitAtLastDouble? '_' ('_' :: n.toList) = none := by
  rw [split?, Option.map_eq_some_iff] at split
  obtain ⟨⟨before, after⟩, parted, same⟩ := split
  cases same
  obtain ⟨whole, undoubled⟩ := Text.splitAtLastDouble?_eq_some parted
  simp only [String.toList_ofList, ← whole]
  exact ⟨String.ofList_toList.symm, undoubled⟩

/-- The name stands in front of the last two underscores of the path that stand in a row. -/
def Through (path name : String) : Prop :=
  ∃ column, path = name ++ "__" ++ column ∧ ¬ ['_', '_'] <:+: '_' :: column.toList

theorem qualifier?_eq_some_iff {name : String} :
    qualifier? path = some name ↔ Through path name := by
  rw [qualifier?, Option.map_eq_some_iff]
  constructor
  · rintro ⟨⟨_, column⟩, split, rfl⟩
    obtain ⟨whole, undoubled⟩ := split?_eq_some split
    refine ⟨column, ?_, Text.splitAtLastDouble?_eq_none_iff.mp undoubled⟩
    rw [whole, ← String.toList_inj]
    simp
  · rintro ⟨column, rfl, undoubled⟩
    refine ⟨(name, column), ?_, rfl⟩
    have split := Text.splitAtLastDouble?_append (q := name.toList)
      (Text.splitAtLastDouble?_eq_none_iff.mpr undoubled)
    simp [split?, split]

theorem isRelated_iff : isRelated path ↔ ['_', '_'] <:+: path.toList :=
  Text.contains_iff_infix _ _

theorem spells_ofPath (base : Option String) (path : String) :
    Spells base path (ColumnRef.ofPath base path) := by
  cases split : split? path with
  | none =>
    have undoubled : Text.splitAtLastDouble? '_' path.toList = none := by
      simpa [split?] using split
    rw [ColumnRef.ofPath, split]
    exact .inr ⟨rfl, Text.splitAtLastDouble?_eq_none_iff.mp undoubled⟩
  | some parts =>
    obtain ⟨table, name⟩ := parts
    obtain ⟨whole, undoubled⟩ := split?_eq_some split
    rw [ColumnRef.ofPath, split]
    refine .inl ⟨table, rfl, ?_, Text.splitAtLastDouble?_eq_none_iff.mp undoubled⟩
    rw [whole, ← String.toList_inj]
    simp

theorem walked_of_trailing_even {q n : String} (split : split? path = some (q, n))
    (even : Text.trailing '_' q.toList % 2 = 0) : walked path = ⟨some q, n⟩ := by
  obtain ⟨whole, undoubled⟩ := split?_eq_some split
  have nameUndoubled := (Text.splitAtLastDouble?_cons_eq_none.mp undoubled).1
  rw [whole, walked_of_even even nameUndoubled, String.ofList_toList, String.ofList_toList]

/-- The last of the underscores in front of the name is left over when the others go in pairs. -/
theorem walked_of_trailing_odd {q n : String} (split : split? path = some (q, n))
    (odd : Text.trailing '_' q.toList % 2 = 1) :
    ∃ r, q = r ++ "_" ∧ walked path = ⟨some r, "_" ++ n⟩ := by
  obtain ⟨whole, undoubled⟩ := split?_eq_some split
  obtain ⟨r, qEq, even⟩ := Text.exists_of_trailing_odd odd
  refine ⟨String.ofList r, ?_, ?_⟩
  · apply String.toList_injective
    simp [qEq]
  · have name : "_" ++ n = String.ofList ('_' :: n.toList) := by
      apply String.toList_injective
      simp
    rw [whole, qEq, List.append_assoc, name]
    exact walked_of_even even undoubled

theorem column_table (path : String) :
    (ColumnRef.ofPath none path).table = qualifier? path := by
  rw [ColumnRef.ofPath, qualifier?]
  cases split? path <;> rfl

/-- The relation that is joined for a path is the one of its column. The column is the one that a
walk finds, unless the underscores that stand together last are an odd number of at least three.
Then the walk has the last of them in the name. -/
theorem column_eq_walked_iff (path : String) :
    (ColumnRef.ofPath none path).table = qualifier? path ∧
    (ColumnRef.ofPath none path = walked path ↔
      ∀ q n, split? path = some (q, n) → Text.trailing '_' q.toList % 2 = 0) ∧
    ∀ q n, split? path = some (q, n) → Text.trailing '_' q.toList % 2 = 1 →
      ∃ r, q = r ++ "_" ∧ walked path = ⟨some r, "_" ++ n⟩ := by
  refine ⟨column_table path, ?_, fun q n => walked_of_trailing_odd⟩
  cases split : split? path with
  | none =>
    have column : ColumnRef.ofPath none path = ⟨none, path⟩ := by rw [ColumnRef.ofPath, split]
    rw [column, walked_of_unsplit split]
    simp
  | some parts =>
    obtain ⟨q, n⟩ := parts
    have column : ColumnRef.ofPath none path = ⟨some q, n⟩ := by rw [ColumnRef.ofPath, split]
    rw [column]
    constructor
    · rintro same _ _ ⟨⟩
      obtain even | odd := Nat.mod_two_eq_zero_or_one (Text.trailing '_' q.toList)
      · exact even
      · obtain ⟨r, qEq, found⟩ := walked_of_trailing_odd split odd
        rw [found] at same
        -- The text in front of the column is longer by the underscore that the walk left over.
        have sameLength := congrArg (fun c => (c.table.getD "").length) same
        simp [qEq] at sameLength
    · intro even
      exact (walked_of_trailing_even split (even q n rfl)).symm

/-- Three underscores: the column is of another relation and has another name than the walk's. -/
theorem column_ne_walked_triple :
    ColumnRef.ofPath none "customer___id" = ⟨some "customer_", "id"⟩ ∧
      walked "customer___id" = ⟨some "customer", "_id"⟩ ∧
      ColumnRef.ofPath none "customer___id" ≠ walked "customer___id" := by
  decide

end Field
end SavedFilter
