import SavedFilter.Proofs.Compile.Valuation

/-! # Groups in the place of conditions

A condition may be written as a group in parentheses that has its value, whatever stands around
it: a reading of the terms goes through with the group in its place, and the tree keeps its value,
`Reads.regrouped`. The implicit conjunctions on both sides of a condition stand on both sides of
the group as well, since both begin an operand.

A term with several fields is such a condition: its fields, one to a term and with marks between
them, are a group, `reads_alternatives`, when the valuation takes the term apart in the same way. -/
set_option autoImplicit false
namespace SavedFilter

section Regrouped

variable {m : Type → Type} [Monad m] {α : Type} (v : Valuation m α)

/-- `Regrouped v ts ts'`: the terms `ts'` are `ts` with groups of the same value in the place of
conditions. Positions may differ. -/
inductive Regrouped : List PlacedTerm → List PlacedTerm → Prop where
  | nil : Regrouped [] []
  | keep {t : Term} {n n' : Nat} {ts ts' : List PlacedTerm} (later : Regrouped ts ts') :
      Regrouped ((t, n) :: ts) ((t, n') :: ts')
  | group {t first last : Term} {n n' k : Nat} {ts ts' inner : List PlacedTerm}
      (atomic : t.isAtomic) (opening : first.operator = .opening)
      (closing : last.operator = .closing)
      (reads : ∀ rest, ∃ tree, TermTree.Reads .disjunction (inner ++ (last, k) :: rest) tree
        ((last, k) :: rest) ∧ tree.value v = v.term t) (later : Regrouped ts ts') :
      Regrouped ((t, n) :: ts) ((first, n') :: inner ++ (last, k) :: ts')

variable {v}

theorem isAtomic_startsOperand {t : Term} (h : t.isAtomic) : t.startsOperand := by
  simp [Term.startsOperand, h]

/-- What is no condition stays as it is. -/
theorem Regrouped.of_mark {t : Term} {n : Nat} {ts ts' : List PlacedTerm}
    (h : Regrouped v ((t, n) :: ts) ts') (mark : t.isAtomic = false) :
    ∃ n' rest, ts' = (t, n') :: rest ∧ Regrouped v ts rest := by
  cases h with
  | keep later => exact ⟨_, _, rfl, later⟩
  | group atomic =>
    rw [mark] at atomic
    cases atomic

theorem Regrouped.starts {t : Term} {n : Nat} {ts ts' : List PlacedTerm}
    (h : Regrouped v ((t, n) :: ts) ts') (starts : t.startsOperand) :
    ∃ u n' rest, ts' = (u, n') :: rest ∧ u.startsOperand := by
  cases h with
  | keep later => exact ⟨t, _, _, rfl, starts⟩
  | @group t first last n n' k ts ts' inner atomic opening =>
    exact ⟨first, _, _, rfl, by simp [Term.startsOperand, opening]⟩

theorem isAtomic_eq_false {t : Term} {o : Operator} (h : t.operator = o)
    (mark : o.isAtomic = false) : t.isAtomic = false := by
  rw [Term.isAtomic, h, mark]

/-- A reading goes through when conditions give way to groups of their value. -/
theorem TermTree.Reads.regrouped {phrase : Phrase} {ts rest ts' : List PlacedTerm}
    {tree : TermTree} (h : Reads phrase ts tree rest) (same : Regrouped v ts ts') :
    ∃ tree' rest', Reads phrase ts' tree' rest' ∧ Regrouped v rest rest' ∧
      tree.value v = tree'.value v := by
  induction h generalizing ts' with
  | @condition t n ts atomic =>
    cases same with
    | keep later => exact ⟨_, _, .condition atomic, later, rfl⟩
    | @group t first last n n' k ts ts' inner _ opening closing reads later =>
      obtain ⟨tree', inside, value⟩ := reads ts'
      exact ⟨tree', ts', .group opening inside closing, later, value.symm⟩
  | @group t u n k ts rest tree opening _ closing ih =>
    obtain ⟨n', ts', rfl, inside⟩ := same.of_mark (isAtomic_eq_false opening rfl)
    obtain ⟨tree', rest', reads, left, value⟩ := ih inside
    obtain ⟨k', rest', rfl, later⟩ := left.of_mark (isAtomic_eq_false closing rfl)
    exact ⟨tree', rest', .group opening reads closing, later, value⟩
  | @empty ts noneStarts =>
    refine ⟨.always, ts', .empty ?_, same, rfl⟩
    cases same with
    | nil => simp
    | @keep t n n' ts ts' later => simpa using noneStarts
    | @group t first last n n' k ts ts' inner atomic =>
      have starts := noneStarts (t, n) rfl
      rw [isAtomic_startsOperand atomic] at starts
      cases starts
  | operand _ ih =>
    obtain ⟨tree', rest', reads, later, value⟩ := ih same
    exact ⟨tree', rest', .operand reads, later, value⟩
  | @and t n ts mid rest left right _ mark _ ihFirst ihLast =>
    obtain ⟨left', mid', first, between, leftValue⟩ := ihFirst same
    obtain ⟨n', mid', rfl, later⟩ := between.of_mark (isAtomic_eq_false mark rfl)
    obtain ⟨right', rest', last, later, rightValue⟩ := ihLast later
    refine ⟨_, rest', .and first mark last, later, ?_⟩
    rw [value, value, leftValue, rightValue]
  | @adjacent t n ts mid rest left right _ starts _ ihFirst ihLast =>
    obtain ⟨left', mid', first, between, leftValue⟩ := ihFirst same
    obtain ⟨u, n', mid', rfl, starts'⟩ := between.starts starts
    obtain ⟨right', rest', last, later, rightValue⟩ := ihLast between
    refine ⟨_, rest', .adjacent first starts' last, later, ?_⟩
    rw [value, value, leftValue, rightValue]
  | conjunction _ ih =>
    obtain ⟨tree', rest', reads, later, value⟩ := ih same
    exact ⟨tree', rest', .conjunction reads, later, value⟩
  | @or t n ts mid rest left right _ mark _ ihFirst ihLast =>
    obtain ⟨left', mid', first, between, leftValue⟩ := ihFirst same
    obtain ⟨n', mid', rfl, later⟩ := between.of_mark (isAtomic_eq_false mark rfl)
    obtain ⟨right', rest', last, later, rightValue⟩ := ihLast later
    refine ⟨_, rest', .or first mark last, later, ?_⟩
    rw [value, value, leftValue, rightValue]

theorem regrouped_self (ts : List Term) (n n' : Nat) :
    Regrouped v (ts.zipIdx n) (ts.zipIdx n') := by
  induction ts generalizing n n' with
  | nil => exact .nil
  | cons t ts ih => exact .keep (ih (n + 1) (n' + 1))

/-- Terms compile alike, positions aside, when conditions give way to groups of the same value,
where a value is what is made of a predicate. -/
theorem Builder.terms_regrouped [LawfulMonad m] {π : Type} (b : Builder m π) (f : π → α)
    (values : ∀ tree : TermTree, f <$> tree.value b.valuation = tree.value v) {ts ts' : List Term}
    (checked : Balance.verdict 0 (ts.filter Term.isLive) =
      Balance.verdict 0 (ts'.filter Term.isLive))
    (same : Regrouped v (ts.filter Term.isLive).zipIdx (ts'.filter Term.isLive).zipIdx) :
    f <$> (b.terms ts).adapt CompileError.unplaced =
      f <$> (b.terms ts').adapt CompileError.unplaced := by
  refine b.terms_alike f checked fun _ tree reads => ?_
  obtain ⟨tree', rest, reads', left, value⟩ := reads.regrouped same
  cases left
  exact ⟨tree', reads', by rw [values, values, value]⟩

end Regrouped

/-! ## A term for each field -/

def Connective.phrase : Connective → TermTree.Phrase
  | and => .conjunction
  | or => .disjunction

def Term.only (t : Term) (field : String) : Term := { t with fields := [field] }

def Term.mark (t : Term) (operator : Operator) : Term :=
  { operator := operator, order := t.order, deleted := t.deleted }

/-- A group in parentheses with one term for each field, and marks between them. -/
def Term.spelled (c : Connective) (t : Term) : List Term :=
  t.mark .opening :: (t.fields.map t.only).intersperse (t.mark c.operator) ++ [t.mark .closing]

theorem intersperse_cons {β : Type} (sep x : β) (xs : List β) :
    (x :: xs).intersperse sep = x :: xs.flatMap fun y => [sep, y] := by
  induction xs generalizing x with
  | nil => rfl
  | cons y ys ih => rw [List.intersperse_cons_cons, ih]; rfl

section Spelled

variable {m : Type → Type} [Monad m] {α : Type} (v : Valuation m α) (c : Connective) (t : Term)

def Valuation.alternative (p : α) (field : String) : ExceptT TermError m α := do
  let q ← v.term (t.only field)
  v.join c p q

/-- The value of the term is that of its fields, joined from the left. -/
def Valuation.Distributes : Prop :=
  ∀ first others, t.fields = first :: others →
    v.term t = v.term (t.only first) >>= others.foldlM (v.alternative c t)

variable [LawfulMonad m] {v c t}

theorem reads_alternatives (atomic : t.isAtomic) {start rest : List PlacedTerm} {tree : TermTree}
    (fields : List String) (n : Nat)
    (before : TermTree.Reads c.phrase start tree
      ((fields.flatMap fun field => [t.mark c.operator, t.only field]).zipIdx n ++ rest)) :
    ∃ tree', TermTree.Reads c.phrase start tree' rest ∧
      tree'.value v = tree.value v >>= fields.foldlM (v.alternative c t) := by
  induction fields generalizing tree n with
  | nil => exact ⟨tree, before, (bind_pure _).symm⟩
  | cons field fields ih =>
    have joined : TermTree.Reads c.phrase start (.join c tree (.condition (n + 1) (t.only field)))
        ((fields.flatMap fun field => [t.mark c.operator, t.only field]).zipIdx (n + 2) ++
          rest) := by
      cases c with
      | and => exact .and before rfl (.condition atomic)
      | or => exact .or before rfl (.operand (.condition atomic))
    obtain ⟨tree', reads, value⟩ := ih (n + 2) joined
    refine ⟨tree', reads, ?_⟩
    rw [value]
    simp only [TermTree.value, Valuation.alternative, List.foldlM_cons, bind_assoc]

theorem reads_spelled (atomic : t.isAtomic) (fields : t.fields ≠ [])
    (distributes : v.Distributes c t) (n : Nat) (rest : List PlacedTerm) :
    ∃ tree, TermTree.Reads .disjunction
      (((t.fields.map t.only).intersperse (t.mark c.operator)).zipIdx n ++ rest) tree rest ∧
        tree.value v = v.term t := by
  obtain ⟨first, others, fieldsEq⟩ := List.exists_cons_of_ne_nil fields
  have inner : ((t.fields.map t.only).intersperse (t.mark c.operator)).zipIdx n =
      (t.only first, n) ::
        (others.flatMap fun field => [t.mark c.operator, t.only field]).zipIdx (n + 1) := by
    rw [fieldsEq, List.map_cons, intersperse_cons, List.flatMap_map, List.zipIdx_cons]
  have begins : TermTree.Reads c.phrase
      (((t.fields.map t.only).intersperse (t.mark c.operator)).zipIdx n ++ rest)
      (.condition n (t.only first))
      ((others.flatMap fun field => [t.mark c.operator, t.only field]).zipIdx (n + 1) ++ rest) := by
    rw [inner]
    cases c with
    | and => exact .operand (.condition atomic)
    | or => exact .conjunction (.operand (.condition atomic))
  obtain ⟨tree, reads, value⟩ := reads_alternatives (v := v) atomic others (n + 1) begins
  have valueEq : tree.value v = v.term t := value.trans (distributes first others fieldsEq).symm
  cases c with
  | and => exact ⟨tree, .conjunction reads, valueEq⟩
  | or => exact ⟨tree, reads, valueEq⟩

/-- The fields of a term, one to a term, are a group of its value. -/
theorem regrouped_spelled (atomic : t.isAtomic) (fields : t.fields ≠ [])
    (distributes : v.Distributes c t) (front back : List Term) (n n' : Nat) :
    Regrouped v ((front ++ t :: back).zipIdx n) ((front ++ (t.spelled c ++ back)).zipIdx n') := by
  induction front generalizing n n' with
  | nil =>
    rw [Term.spelled, List.nil_append, List.nil_append, List.zipIdx_cons, List.cons_append,
      List.cons_append, List.zipIdx_cons, List.append_assoc, List.zipIdx_append]
    exact .group atomic rfl rfl (fun rest => reads_spelled atomic fields distributes (n' + 1) _)
      (regrouped_self back _ _)
  | cons u front ih => exact .keep (ih (n + 1) (n' + 1))

/-! ## Terms spelled out among others -/

theorem mem_intersperse {β : Type} {sep x : β} {xs : List β} (h : x ∈ xs.intersperse sep) :
    x = sep ∨ x ∈ xs := by
  cases xs with
  | nil => exact .inr h
  | cons y ys =>
    rw [intersperse_cons] at h
    simp only [List.mem_cons, List.mem_flatMap, List.not_mem_nil, or_false] at h ⊢
    obtain rfl | ⟨z, member, rfl | rfl⟩ := h
    · exact .inr (.inl rfl)
    · exact .inl rfl
    · exact .inr (.inr member)

theorem isLive_of_mem_spelled {u : Term} (h : u ∈ t.spelled c) : u.isLive = t.isLive := by
  rw [Term.spelled, List.mem_append, List.mem_cons, List.mem_singleton] at h
  obtain (rfl | inside) | rfl := h
  · rfl
  · obtain rfl | member := mem_intersperse inside
    · rfl
    · obtain ⟨field, _, rfl⟩ := List.mem_map.mp member
      rfl
  · rfl

theorem verdict_spelled (atomic : t.isAtomic) (live : t.isLive) (depth : Nat) (back : List Term) :
    Balance.verdict depth (t :: back) = Balance.verdict depth (t.spelled c ++ back) := by
  have other : t.operator ≠ .opening ∧ t.operator ≠ .closing := by
    cases operator : t.operator <;> simp_all [Term.isAtomic, Operator.isAtomic]
  have inside : ∀ u ∈ (t.fields.map t.only).intersperse (t.mark c.operator),
      u.operator ≠ .opening ∧ u.operator ≠ .closing := by
    intro u member
    obtain rfl | member := mem_intersperse member
    · cases c <;> simp [Term.mark, Connective.operator]
    · obtain ⟨field, _, rfl⟩ := List.mem_map.mp member
      exact other
  have openingLive : (t.mark .opening).isLive := live
  have closingLive : (t.mark .closing).isLive := live
  have group := Balance.verdict_group rfl rfl openingLive closingLive inside depth back
  rw [Term.spelled, List.append_assoc, List.singleton_append, group, Balance.verdict_cons,
    Balance.depthAfter_other other]

/-- A term may be spelled out among other terms: they compile alike, positions aside, where a
value of the term is what is made of its predicate. -/
theorem Builder.terms_spelled {π : Type} (b : Builder m π) (f : π → α)
    (values : ∀ tree : TermTree, f <$> tree.value b.valuation = tree.value v)
    (atomic : t.isAtomic) (fields : t.fields ≠ []) (distributes : v.Distributes c t)
    (front back : List Term) :
    f <$> (b.terms (front ++ t :: back)).adapt CompileError.unplaced =
      f <$> (b.terms (front ++ (t.spelled c ++ back))).adapt CompileError.unplaced := by
  have before : (front ++ t :: back).filter Term.isLive =
      front.filter Term.isLive ++ (t :: back).filter Term.isLive :=
    List.filter_append _ _
  have after : (front ++ (t.spelled c ++ back)).filter Term.isLive =
      front.filter Term.isLive ++ ((t.spelled c).filter Term.isLive ++
        back.filter Term.isLive) := by
    rw [List.filter_append, List.filter_append]
  cases live : t.isLive with
  | false =>
    have noneLive : (t.spelled c).filter Term.isLive = [] := by
      rw [List.filter_eq_nil_iff]
      intro u member
      rw [isLive_of_mem_spelled member, live]
      decide
    rw [terms, terms, before, after, noneLive, List.nil_append,
      List.filter_cons_of_neg (by simp [live])]
  | true =>
    have allLive : (t.spelled c).filter Term.isLive = t.spelled c := by
      rw [List.filter_eq_self]
      intro u member
      rw [isLive_of_mem_spelled member, live]
    rw [List.filter_cons_of_pos live] at before
    rw [allLive] at after
    apply b.terms_regrouped f values
    · rw [before, after]
      exact Balance.verdict_append (fun depth => verdict_spelled atomic live depth _) _ 0
    · rw [before, after]
      exact regrouped_spelled atomic fields distributes _ _ 0 0

end Spelled

end SavedFilter
