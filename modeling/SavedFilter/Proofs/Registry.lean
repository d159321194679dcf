import Mathlib.Data.List.Nodup
import SavedFilter.Stored.Registry

/-! # The history of a registry

A schema is submitted to a registry under its qualified name. If the name is taken, whatever its
letter case, the schema is refused and nothing changes; otherwise it is kept for good. So the
answers of a registry follow from what was submitted: under each name the first schema that was
submitted under it, `answers_of_submissions`. They do not depend on an order in which the models are
gone through, `find?_perm` and `choices_perm`. -/
set_option autoImplicit false
namespace SavedFilter.Registry

/-- The registry after a submission, which changes nothing if it is refused. -/
def submit (r : Registry) (s : Schema) : Registry :=
  match r.register s with
  | .ok r => r
  | .error _ => r

def afterAll (submitted : List Schema) : Registry := submitted.foldl submit empty

def replies (r : Registry) : List Schema → List (Except PlanError Unit)
  | [] => []
  | s :: later => (r.register s).map (fun _ => ()) :: (r.submit s).replies later

/-- No two models have one name, letter case apart. -/
def Distinct (r : Registry) : Prop := (r.models.map Schema.key).Nodup

variable {r : Registry} {s : Schema} {name : String} {submitted : List Schema}

/-! ## One submission -/

theorem isSome_find?_iff :
    (r.find? name).isSome ↔ Text.lowerText name ∈ r.models.map Schema.key := by
  simp [find?]

theorem register_eq (r : Registry) (s : Schema) :
    r.register s = if (r.find? s.qualifiedName).isSome then .error (.duplicateModel s.qualifiedName)
      else .ok ⟨r.models ++ [s]⟩ := by
  have taken : r.models.any (·.key == s.key) = (r.find? s.qualifiedName).isSome := by
    rw [find?, Bool.eq_iff_iff, List.any_eq_true, List.find?_isSome]
    rfl
  rw [register, taken]

theorem register_taken (taken : (r.find? s.qualifiedName).isSome) :
    r.register s = .error (.duplicateModel s.qualifiedName) := by
  rw [register_eq, if_pos taken]

theorem register_free (free : r.find? s.qualifiedName = none) :
    r.register s = .ok ⟨r.models ++ [s]⟩ := by
  rw [register_eq, free]
  rfl

theorem register_eq_error_iff :
    r.register s = .error (.duplicateModel s.qualifiedName) ↔
      (r.find? s.qualifiedName).isSome := by
  cases found : r.find? s.qualifiedName with
  | some t => simp [register_taken (s := s) (r := r) (by simp [found])]
  | none => simp [register_free found]

theorem exists_register_eq_ok_iff :
    (∃ r', r.register s = .ok r') ↔ r.find? s.qualifiedName = none := by
  cases found : r.find? s.qualifiedName with
  | some t => simp [register_taken (s := s) (r := r) (by simp [found])]
  | none => simp [register_free found]

theorem submit_taken (taken : (r.find? s.qualifiedName).isSome) : r.submit s = r := by
  rw [submit, register_taken taken]

theorem submit_free (free : r.find? s.qualifiedName = none) : r.submit s = ⟨r.models ++ [s]⟩ := by
  rw [submit, register_free free]

theorem find?_submit (r : Registry) (s : Schema) (name : String) :
    (r.submit s).find? name =
      (r.find? name).or ([s].find? (·.key == Text.lowerText name)) := by
  cases found : r.find? s.qualifiedName with
  | none =>
    rw [submit_free found, find?, List.find?_append]
    rfl
  | some t =>
    rw [submit_taken (by simp [found])]
    by_cases same : s.key = Text.lowerText name
    · -- the name leads to the model that took it
      have taken : r.find? name = some t := by
        rw [← found, find?, find?, ← same]
        rfl
      rw [taken, Option.some_or]
    · simp [same]

theorem distinct_submit (distinct : r.Distinct) (s : Schema) : (r.submit s).Distinct := by
  cases found : r.find? s.qualifiedName with
  | some t => rwa [submit_taken (by simp [found])]
  | none =>
    have fresh : s.key ∉ r.models.map Schema.key := by
      have absent : ¬ (r.find? s.qualifiedName).isSome := by simp [found]
      rwa [isSome_find?_iff] at absent
    rw [submit_free found, Distinct, List.map_append, List.nodup_append]
    refine ⟨distinct, List.nodup_singleton _, fun key member other isNew => ?_⟩
    obtain rfl := List.mem_singleton.mp isNew
    rintro rfl
    exact fresh member

/-! ## All submissions -/

theorem find?_submissions (r : Registry) (submitted : List Schema) (name : String) :
    (submitted.foldl submit r).find? name =
      (r.find? name).or (submitted.find? (·.key == Text.lowerText name)) := by
  induction submitted generalizing r with
  | nil => exact Option.or_none.symm
  | cons s later ih =>
    rw [List.foldl_cons, ih, find?_submit, Option.or_assoc, ← List.find?_append]
    rfl

theorem distinct_submissions (distinct : r.Distinct) (submitted : List Schema) :
    (submitted.foldl submit r).Distinct := by
  induction submitted generalizing r with
  | nil => exact distinct
  | cons s later ih => exact ih (distinct_submit distinct s)

theorem size_submissions (r : Registry) (submitted : List Schema) :
    (submitted.foldl submit r).size = r.size + (r.replies submitted).countP Except.isOk := by
  induction submitted generalizing r with
  | nil => rfl
  | cons s later ih =>
    rw [List.foldl_cons, ih, replies, List.countP_cons]
    cases found : r.find? s.qualifiedName with
    | some t =>
      have taken : (r.find? s.qualifiedName).isSome := by simp [found]
      rw [submit_taken taken, register_taken taken]
      rfl
    | none =>
      rw [submit_free found, register_free found, size, List.length_append, Nat.add_assoc,
        Nat.add_comm (List.countP _ _)]
      rfl

theorem find?_afterAll (submitted : List Schema) (name : String) :
    (afterAll submitted).find? name =
      submitted.find? (·.key == Text.lowerText name) :=
  find?_submissions empty submitted name

theorem distinct_afterAll (submitted : List Schema) : (afterAll submitted).Distinct :=
  distinct_submissions (r := empty) List.nodup_nil submitted

/-- What is refused leaves no trace in a history. -/
theorem afterAll_taken (taken : ((afterAll submitted).find? s.qualifiedName).isSome)
    (later : List Schema) : afterAll (submitted ++ s :: later) = afterAll (submitted ++ later) := by
  rw [afterAll, afterAll, List.foldl_append, List.foldl_append, List.foldl_cons]
  exact congrArg (later.foldl submit) (submit_taken taken)

/-! ## Histories without a refusal -/

def Accepts (r : Registry) (submitted : List Schema) : Prop :=
  ∀ reply ∈ r.replies submitted, reply = .ok ()

theorem accepts_nil : r.Accepts [] := by simp [Accepts, replies]

theorem not_accepts_taken (taken : (r.find? s.qualifiedName).isSome) (later : List Schema) :
    ¬ r.Accepts (s :: later) := by
  simp [Accepts, replies, register_taken taken, Except.map]

theorem accepts_free (free : r.find? s.qualifiedName = none) (later : List Schema) :
    r.Accepts (s :: later) ↔ Accepts ⟨r.models ++ [s]⟩ later := by
  simp [Accepts, replies, register_free free, submit_free free, Except.map]

theorem accepts_iff (distinct : r.Distinct) :
    r.Accepts submitted ↔ (r.models.map Schema.key ++ submitted.map Schema.key).Nodup := by
  induction submitted generalizing r with
  | nil =>
    rw [List.map_nil, List.append_nil]
    exact iff_of_true accepts_nil distinct
  | cons s later ih =>
    cases found : r.find? s.qualifiedName with
    | some t =>
      have taken : (r.find? s.qualifiedName).isSome := by simp [found]
      have repeated : s.key ∈ r.models.map Schema.key := isSome_find?_iff.mp taken
      refine iff_of_false (not_accepts_taken taken later) fun distinct => ?_
      exact (List.nodup_append.mp distinct).2.2 s.key repeated s.key (by simp) rfl
    | none =>
      have kept := distinct_submit distinct s
      rw [submit_free found] at kept
      rw [accepts_free found, ih kept]
      simp

theorem submissions_of_accepts (accepted : r.Accepts submitted) :
    submitted.foldl submit r = ⟨r.models ++ submitted⟩ := by
  induction submitted generalizing r with
  | nil => simp
  | cons s later ih =>
    cases found : r.find? s.qualifiedName with
    | some t => exact absurd accepted (not_accepts_taken (by simp [found]) later)
    | none =>
      rw [List.foldl_cons, submit_free found, ih ((accepts_free found later).mp accepted)]
      simp

theorem foldlM_register_eq_ok_iff {r' : Registry} :
    submitted.foldlM register r = .ok r' ↔
      r.Accepts submitted ∧ submitted.foldl submit r = r' := by
  induction submitted generalizing r with
  | nil =>
    have kept : ([] : List Schema).foldlM register r = .ok r := rfl
    simp [kept, accepts_nil]
  | cons s later ih =>
    rw [List.foldlM_cons, List.foldl_cons]
    cases found : r.find? s.qualifiedName with
    | some t =>
      have taken : (r.find? s.qualifiedName).isSome := by simp [found]
      rw [register_taken taken]
      refine iff_of_false (fun failed => ?_) fun both => not_accepts_taken taken later both.1
      cases failed
    | none =>
      rw [register_free found, submit_free found, accepts_free found]
      exact ih

theorem accepts_empty_iff :
    empty.Accepts submitted ↔ (submitted.map fun s => Text.lowerText s.qualifiedName).Nodup :=
  accepts_iff (r := empty) List.nodup_nil

theorem afterAll_of_accepts (accepted : empty.Accepts submitted) :
    afterAll submitted = ⟨submitted⟩ :=
  submissions_of_accepts accepted

/-! ## The order of the models -/

theorem find?_eq_some_iff (distinct : r.Distinct) :
    r.find? name = some s ↔ s ∈ r.models ∧ s.key = Text.lowerText name := by
  constructor
  · intro found
    exact ⟨List.mem_of_find?_eq_some found, by simpa using List.find?_some found⟩
  · rintro ⟨member, named⟩
    have taken : (r.find? name).isSome :=
      isSome_find?_iff.mpr (named ▸ List.mem_map_of_mem member)
    obtain ⟨t, found⟩ := Option.isSome_iff_exists.mp taken
    have same : t.key = s.key := by
      have ofName : t.key = Text.lowerText name := by simpa using List.find?_some found
      rw [ofName, named]
    rw [found, List.inj_on_of_nodup_map distinct (List.mem_of_find?_eq_some found) member same]

variable {models : List Schema}

theorem distinct_perm (order : models.Perm r.models) (distinct : r.Distinct) :
    Distinct ⟨models⟩ :=
  (order.map Schema.key).nodup_iff.mpr distinct

theorem find?_perm (order : models.Perm r.models) (distinct : r.Distinct) (name : String) :
    find? ⟨models⟩ name = r.find? name := by
  refine Option.ext fun s => ?_
  rw [find?_eq_some_iff (distinct_perm order distinct), find?_eq_some_iff distinct, order.mem_iff]

def offered (r : Registry) : List String :=
  (r.models.filter (!·.isProxy)).map Schema.qualifiedName

theorem nodup_offered (distinct : r.Distinct) : r.offered.Nodup := by
  have keys : r.models.map Schema.key =
      (r.models.map Schema.qualifiedName).map Text.lowerText := by
    rw [List.map_map]
    rfl
  rw [Distinct, keys] at distinct
  exact (List.filter_sublist.map _).nodup distinct.of_map

theorem choices_perm_offered (r : Registry) :
    r.choices.Perm (r.offered.map fun q => (q, modelName q)) :=
  List.mergeSort_perm _ _

theorem names_perm_offered (r : Registry) : (r.choices.map Prod.fst).Perm r.offered := by
  simpa [Function.comp_def] using (choices_perm_offered r).map Prod.fst

theorem choices_eq_map (r : Registry) :
    r.choices = (r.choices.map Prod.fst).map fun q => (q, modelName q) := by
  rw [List.map_map]
  refine (List.map_id _).symm.trans (List.map_congr_left fun choice member => ?_)
  obtain ⟨q, _, rfl⟩ := List.mem_map.mp ((choices_perm_offered r).mem_iff.mp member)
  rfl

theorem choices_ascending (distinct : r.Distinct) : (r.choices.map Prod.fst).Pairwise (· < ·) := by
  have weakly : (r.choices.map Prod.fst).Pairwise (· ≤ ·) := by
    rw [List.pairwise_map]
    refine (List.pairwise_mergeSort ?_ ?_ _).imp fun ordered => of_decide_eq_true ordered
    · intro a b c first second
      exact decide_eq_true (String.le_trans (of_decide_eq_true first) (of_decide_eq_true second))
    · intro a b
      simpa using String.le_total a.1 b.1
  have apart : (r.choices.map Prod.fst).Nodup :=
    (names_perm_offered r).nodup_iff.mpr (nodup_offered distinct)
  exact (weakly.and apart).imp fun both => Std.lt_of_le_of_ne both.1 both.2

theorem choices_perm (order : models.Perm r.models) (distinct : r.Distinct) :
    choices ⟨models⟩ = r.choices := by
  have offered : (offered ⟨models⟩).Perm r.offered := (order.filter _).map _
  have names : (choices ⟨models⟩).map Prod.fst = r.choices.map Prod.fst := by
    refine List.Perm.eq_of_pairwise (fun a b _ _ first second => ?_)
      (choices_ascending (distinct_perm order distinct)) (choices_ascending distinct) ?_
    · exact absurd second (String.lt_asymm first)
    · exact (names_perm_offered _).trans (offered.trans (names_perm_offered r).symm)
  rw [choices_eq_map, names, ← choices_eq_map]

theorem mem_names_iff (distinct : r.Distinct) {q : String} :
    q ∈ r.choices.map Prod.fst ↔
      ∃ s, r.find? q = some s ∧ s.qualifiedName = q ∧ s.isProxy = false := by
  simp only [(names_perm_offered r).mem_iff, offered, List.mem_map, List.mem_filter,
    Bool.not_eq_true', find?_eq_some_iff distinct]
  constructor
  · rintro ⟨s, ⟨member, concrete⟩, rfl⟩
    exact ⟨s, ⟨member, rfl⟩, rfl, concrete⟩
  · rintro ⟨s, ⟨member, _⟩, named, concrete⟩
    exact ⟨s, ⟨member, concrete⟩, named⟩

/-! ## The answers -/

/-- A name leads to the first schema that was submitted under it, and a submission is refused
exactly when its name leads to one. The models that are offered stand in ascending order, each once.
Neither the order in which a registry keeps its models nor, without a refusal, the order of the
submissions matters. A list of schemas is a registry exactly when all of them can be submitted. -/
theorem answers_of_submissions (submitted : List Schema) :
    (∀ name, (afterAll submitted).find? name =
      submitted.find? fun s => Text.lowerText s.qualifiedName == Text.lowerText name) ∧
    (∀ s, ((afterAll submitted).register s = .error (.duplicateModel s.qualifiedName) ↔
        ((afterAll submitted).find? s.qualifiedName).isSome) ∧
      ((∃ r, (afterAll submitted).register s = .ok r) ↔
        (afterAll submitted).find? s.qualifiedName = none) ∧
      (((afterAll submitted).find? s.qualifiedName).isSome →
        ∀ later, afterAll (submitted ++ s :: later) = afterAll (submitted ++ later))) ∧
    (afterAll submitted).size = (empty.replies submitted).countP Except.isOk ∧
    (∃ names : List String, names.Pairwise (· < ·) ∧
      (afterAll submitted).choices = names.map (fun q => (q, modelName q)) ∧
      ∀ q, q ∈ names ↔ ∃ s, (afterAll submitted).find? q = some s ∧ s.qualifiedName = q ∧
        s.isProxy = false) ∧
    (∀ models : List Schema, models.Perm (afterAll submitted).models →
      (∀ name, find? ⟨models⟩ name = (afterAll submitted).find? name) ∧
      choices ⟨models⟩ = (afterAll submitted).choices) ∧
    (∀ other : List Schema, other.Perm submitted → empty.Accepts submitted →
      empty.Accepts other ∧
      (∀ name, (afterAll other).find? name = (afterAll submitted).find? name) ∧
      (afterAll other).size = (afterAll submitted).size ∧
      (afterAll other).choices = (afterAll submitted).choices) ∧
    ((∃ r, ofSchemas submitted = .ok r) ↔
      (submitted.map fun s => Text.lowerText s.qualifiedName).Nodup) ∧
    (∀ r, ofSchemas submitted = .ok r → r = afterAll submitted) ∧
    ∀ text, Source.readWhole readSchemas text = some submitted →
      ofText text = ofSchemas submitted := by
  have distinct := distinct_afterAll submitted
  refine ⟨find?_afterAll submitted,
    fun s => ⟨register_eq_error_iff, exists_register_eq_ok_iff, afterAll_taken⟩, ?_, ?_, ?_, ?_, ?_,
    ?_, ?_⟩
  · exact (size_submissions empty submitted).trans (Nat.zero_add _)
  · exact ⟨_, choices_ascending distinct, choices_eq_map _, fun q => mem_names_iff distinct⟩
  · exact fun models order => ⟨find?_perm order distinct, choices_perm order distinct⟩
  · intro other order accepted
    have acceptedOther : empty.Accepts other := by
      rw [accepts_empty_iff] at accepted ⊢
      exact (order.map _).nodup_iff.mpr accepted
    have models : (afterAll submitted).models = submitted := by rw [afterAll_of_accepts accepted]
    rw [afterAll_of_accepts acceptedOther]
    rw [← models] at order
    exact ⟨acceptedOther, find?_perm order distinct, order.length_eq, choices_perm order distinct⟩
  · simp only [ofSchemas, foldlM_register_eq_ok_iff, accepts_empty_iff, exists_and_left,
      exists_eq', and_true]
  · intro r registered
    exact (foldlM_register_eq_ok_iff.mp registered).2.symm
  · intro text read
    rw [ofText, read]

section Shop

def shopOrder : Schema := { app := "shop", name := "order", table := "shop_order" }

/-- It has the qualified name of the orders. -/
def shopOrderAgain : Schema := { app := "shop", name := "ORDER", table := "orders" }

def shopCustomer : Schema := { app := "shop", name := "customer", table := "shop_customer" }

def shopText : String :=
  "\x7b\"models\": [\x7b\"app\": \"shop\", \"name\": \"order\", \"table\": \"shop_order\"\x7d,
    \x7b\"app\": \"shop\", \"name\": \"customer\", \"table\": \"shop_customer\"\x7d]\x7d"

theorem answers_of_submissions_shop :
    (afterAll [shopOrder, shopOrderAgain, shopCustomer]).find? "SHOP.ORDER" = some shopOrder ∧
      afterAll [shopOrder, shopOrderAgain, shopCustomer] = afterAll [shopOrder, shopCustomer] ∧
      (afterAll [shopCustomer, shopOrder]).choices = (afterAll [shopOrder, shopCustomer]).choices ∧
      ofText shopText = .ok (afterAll [shopOrder, shopCustomer]) := by
  obtain ⟨first, refused, _⟩ := answers_of_submissions [shopOrder]
  obtain ⟨_, _, _, _, _, reordered, registers, same, loads⟩ :=
    answers_of_submissions [shopOrder, shopCustomer]
  have apart : ([shopOrder, shopCustomer].map fun s => Text.lowerText s.qualifiedName).Nodup := by
    decide +kernel
  have taken : ((afterAll [shopOrder]).find? shopOrderAgain.qualifiedName).isSome := by
    rw [first]
    decide +kernel
  have accepted : empty.Accepts [shopOrder, shopCustomer] := accepts_empty_iff.mpr apart
  obtain ⟨r, registered⟩ := registers.mpr apart
  refine ⟨?_, (refused shopOrderAgain).2.2 taken [shopCustomer], ?_, ?_⟩
  · rw [(answers_of_submissions [shopOrder, shopOrderAgain, shopCustomer]).1]
    decide +kernel
  · exact (reordered [shopCustomer, shopOrder] (.swap _ _ _) accepted).2.2.2
  · rw [loads shopText (by decide +kernel), registered, same r registered]

end Shop

end SavedFilter.Registry
