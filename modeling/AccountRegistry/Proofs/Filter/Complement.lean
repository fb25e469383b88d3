import AccountRegistry.Proofs.Filter.Decided

/-! # Complementary criteria

Every operator but `like` has a complement, which takes the same operands and makes the opposite
condition of them. Criteria that differ in this alone are accepted together, and every account that
decides one of them matches exactly one.
-/

namespace AccountRegistry

/-! ## Comparisons -/

/-- The comparison that holds in the other orders. -/
def Comparison.opposite? : Comparison → Option Comparison
  | .eq => some .ne
  | .ne => some .eq
  | .gt => some .le
  | .le => some .gt
  | .lt => some .ge
  | .ge => some .lt
  | .isNull => some .isNotNull
  | .isNotNull => some .isNull
  | .like | .ilike => none

theorem Comparison.ofOrder_opposite {c c' : Comparison} (h : c.opposite? = some c')
    (o : Ordering) : c'.ofOrder o = Truth.not (c.ofOrder o) := by
  cases c <;> cases h <;> cases o <;> rfl

/-- Opposite comparisons are unknown of the same values and differ on all others. -/
theorem Comparison.eval_opposite {c c' : Comparison} (h : c.opposite? = some c')
    (left right : Datum) : c'.eval left right = Truth.not (c.eval left right) := by
  cases c <;> cases h
  case eq | ne | gt | le | lt | ge =>
    unfold Comparison.eval
    cases left.order? right with
    | none => rfl
    | some o => exact ofOrder_opposite rfl o
  case isNull => rfl
  case isNotNull => exact congrArg some (Bool.not_not _).symm

/-! ## Operators -/

theorem Operand.exists_list {x : Operand} (h : x.form = .list) : ∃ ds, x = .list ds := by
  cases x with
  | list ds => exact ⟨ds, rfl⟩
  | _ => cases h

namespace Operator

/-- The operator that asks for the opposite. -/
def complement? : Operator → Option Operator
  | .isNull => some .isNotNull
  | .isNotNull => some .isNull
  | .eq => some .ne
  | .ne => some .eq
  | .gt => some .le
  | .le => some .gt
  | .lt => some .ge
  | .ge => some .lt
  | .ilike => some .notIlike
  | .notIlike => some .ilike
  | .isIn => some .notIn
  | .notIn => some .isIn
  | .like => none

variable {op op' : Operator} (h : op.complement? = some op')

include h

theorem forms_complement : op'.forms = op.forms := by
  cases op <;> cases h <;> rfl

/-- Complementary operators make opposite conditions of an operand that they take. -/
theorem truth_apply_complement {x : Operand} (hx : x.form ∈ op.forms) (f : Field) (a : Account) :
    (op'.apply f x).truth a = Truth.not ((op.apply f x).truth a) := by
  have hcompare {c c' : Comparison} (hc : c.opposite? = some c') (d : Datum) :
      Condition.truth a (.compare f c' d) = Truth.not (Condition.truth a (.compare f c d)) :=
    Comparison.eval_opposite hc _ d
  have hnegation (c : Condition) : c.truth a = Truth.not (Condition.truth a (.not c)) :=
    (Truth.not_not _).symm
  cases op <;> cases h
  case isNull | isNotNull => cases x <;> exact hcompare rfl .null
  case eq | ne =>
    cases x with
    | absent => exact hcompare rfl .null
    | single d => exact hcompare rfl d
    | list ds => simp [Operand.form, forms] at hx
  case gt | le | lt | ge =>
    obtain ⟨d, rfl⟩ := Operand.exists_single (List.mem_singleton.mp hx)
    exact hcompare rfl d
  case ilike =>
    obtain ⟨d, rfl⟩ := Operand.exists_single (List.mem_singleton.mp hx)
    rfl
  case notIlike =>
    obtain ⟨d, rfl⟩ := Operand.exists_single (List.mem_singleton.mp hx)
    exact hnegation _
  case isIn =>
    obtain ⟨ds, rfl⟩ := Operand.exists_list (List.mem_singleton.mp hx)
    rfl
  case notIn =>
    obtain ⟨ds, rfl⟩ := Operand.exists_list (List.mem_singleton.mp hx)
    exact hnegation _

omit h in
theorem size_apply_le (f : Field) (x : Operand) : (op.apply f x).size ≤ 2 := by
  have hmember (ds : List Datum) : (Condition.memberOf f ds).size = 1 := by
    cases ds <;> rfl
  cases op <;> cases x <;> simp [apply, comparison?, Condition.size, hmember, Condition.isNull,
    Condition.isNotNull]

end Operator

/-! ## Criteria -/

theorem Filter.ofNodes_eq_ok_iff {P : Type} [FilterProperty P] {ns : List (FilterNode P)}
    {f : Filter P} : ofNodes ns = .ok f ↔ f.nodes = ns := by
  rw [ofNodes, dite_eq_ok_iff]
  constructor
  · rintro ⟨_, rfl⟩
    rfl
  · rintro rfl
    exact ⟨f.bounded, rfl⟩

/-- The members of an object that name a property, an operator and a value and hold no group; other
members do not matter. -/
structure Names (ms : List (String × Json.Value)) (p : AccountProperty) (op : Operator)
    (v : Option Json.Value) : Prop where
  noGroup : HoldsNoGroup ms
  property : ∃ s, Json.member? "property" ms = some (.string s) ∧ FilterProperty.resolve s = .ok p
  operator : ∃ s, Json.member? "operator" ms = some (.string s) ∧ Operator.resolve s = .ok op
  value : Json.member? "value" ms = v

namespace Names

variable {ms : List (String × Json.Value)} {p : AccountProperty} {op : Operator}
  {v : Option Json.Value} (h : Names ms p op v)

include h

theorem isCriterion_iff {c : Criterion AccountProperty} : IsCriterion ms c ↔
    ∃ x, c = ⟨p, op, x⟩ ∧ IsOperand p v x ∧ x.form ∈ op.forms := by
  obtain ⟨-, ⟨property, hproperty, hp⟩, ⟨operator, hoperator, hop⟩, rfl⟩ := h
  constructor
  · obtain ⟨p', op', x⟩ := c
    rintro ⟨⟨s, hs, hp'⟩, ⟨s', hs', hop'⟩, hx, hform⟩
    rw [hproperty] at hs
    rw [hoperator] at hs'
    cases hs
    cases hs'
    dsimp only at hp' hop'
    rw [hp] at hp'
    rw [hop] at hop'
    cases hp'
    cases hop'
    exact ⟨x, rfl, hx, hform⟩
  · rintro ⟨x, rfl, hx, hform⟩
    exact ⟨⟨property, hproperty, hp⟩, ⟨operator, hoperator, hop⟩, hx, hform⟩

theorem ofValue_eq_ok_iff {f : Filter AccountProperty} : Filter.ofValue (.object ms) = .ok f ↔
    ∃ x, f.nodes = [.leaf ⟨p, op, x⟩] ∧ IsOperand p v x ∧ x.form ∈ op.forms := by
  rw [Filter.ofValue, FilterNode.ofValue_criterion h.noGroup]
  simp only [bind_eq_ok_iff, map_eq_ok_iff, Criterion.ofMembers_eq_ok_iff, h.isCriterion_iff,
    Filter.ofNodes_eq_ok_iff]
  constructor
  · rintro ⟨_, ⟨_, ⟨x, rfl, hx⟩, rfl⟩, hnodes⟩
    exact ⟨x, hnodes, hx⟩
  · rintro ⟨x, hnodes, hx⟩
    exact ⟨_, ⟨_, ⟨x, rfl, hx⟩, rfl⟩, hnodes⟩

/-- A criterion is accepted if its property reads the value in a form that its operator takes. -/
theorem exists_ofValue_iff : (∃ f : Filter AccountProperty, Filter.ofValue (.object ms) = .ok f) ↔
    ∃ x, IsOperand p v x ∧ x.form ∈ op.forms := by
  simp only [h.ofValue_eq_ok_iff]
  constructor
  · rintro ⟨f, x, -, hx⟩
    exact ⟨x, hx⟩
  · rintro ⟨x, hx⟩
    have hsize : (compileNodes [.leaf (⟨p, op, x⟩ : Criterion AccountProperty)]).size ≤
        maxFilterNodes := Nat.le_trans (Operator.size_apply_le p.field x) (by decide)
    exact ⟨⟨_, hsize⟩, x, rfl, hx⟩

end Names

/-- The operand is read from the value alone, whatever is done with it. -/
theorem IsOperand.unique {P : Type} [FilterProperty P] {p : P} {v : Option Json.Value}
    {x x' : Operand} (h : IsOperand p v x) (h' : IsOperand p v x') : x = x' := by
  rw [← coerceOperand_eq_ok_iff] at h h'
  exact Except.ok.inj (h.symm.trans h')

namespace MemoryStore

theorem count_active_apply (s : MemoryStore) (f : Filter AccountProperty) :
    s.count (f.apply .active) = ((s.fetch .active).filter f.compile.matches).length := by
  rw [count, select_apply s.distinct]
  rfl

end MemoryStore

/-- The condition of a filter that is one criterion. -/
theorem Filter.compile_of_leaf {f : Filter AccountProperty} {p : AccountProperty} {op : Operator}
    {x : Operand} (h : f.nodes = [.leaf ⟨p, op, x⟩]) : f.compile = op.apply p.field x := by
  rw [compile, h]
  rfl

/-- Where complementary criteria are decided, an account matches one of them and not the other. -/
theorem Operator.matches_apply_complement {op op' : Operator} (h : op.complement? = some op')
    {x : Operand} (hx : x.form ∈ op.forms) {f : Field} {a : Account}
    (hdecided : ((op.apply f x).eval a).isSome = true) :
    (op'.apply f x).matches a = !(op.apply f x).matches a := by
  have hopposite : (op'.apply f x).eval a = (Condition.not (op.apply f x)).eval a := by
    rw [Condition.eval_eq_truth, Condition.eval_eq_truth]
    exact truth_apply_complement h hx f a
  rw [← Condition.matches_not hdecided, Condition.matches, hopposite, Condition.matches]

/-- Criteria with complementary operators are accepted together. Unless they match a pattern against
the moment of the last change, every account matches exactly one of them, and so the active accounts
of every store are counted by one or the other. -/
theorem complementary_criteria_split {op op' : Operator} (hop : op.complement? = some op')
    {p : AccountProperty} {v : Option Json.Value} {ms ms' : List (String × Json.Value)}
    (h : Names ms p op v) (h' : Names ms' p op' v) :
    ((∃ f : Filter AccountProperty, Filter.ofValue (.object ms) = .ok f) ↔
      ∃ f : Filter AccountProperty, Filter.ofValue (.object ms') = .ok f) ∧
    ∀ f f' : Filter AccountProperty, Filter.ofValue (.object ms) = .ok f →
      Filter.ofValue (.object ms') = .ok f' → (op.isPattern = true → p ≠ .modified) →
      (∀ a, f'.compile.matches a = !f.compile.matches a) ∧
      ∀ s : MemoryStore,
        s.count (f.apply .active) + s.count (f'.apply .active) = s.count .active := by
  refine ⟨?_, fun f f' hf hf' hpattern => ?_⟩
  · rw [h.exists_ofValue_iff, h'.exists_ofValue_iff, Operator.forms_complement hop]
  · obtain ⟨x, hnodes, hx, hform⟩ := h.ofValue_eq_ok_iff.mp hf
    obtain ⟨x', hnodes', hx', -⟩ := h'.ofValue_eq_ok_iff.mp hf'
    obtain rfl := hx.unique hx'
    have hcriterion : IsCriterion ms ⟨p, op, x⟩ := h.isCriterion_iff.mpr ⟨x, rfl, hx, hform⟩
    have hdecided (a : Account) : ((op.apply p.field x).eval a).isSome = true :=
      Condition.eval_isSome (hcriterion.wellTyped_iff.mpr fun hc => hpattern hc.1 hc.2) a
    have hmatches (a : Account) : f'.compile.matches a = !f.compile.matches a := by
      rw [Filter.compile_of_leaf hnodes, Filter.compile_of_leaf hnodes']
      exact Operator.matches_apply_complement hop hform (hdecided a)
    refine ⟨hmatches, fun s => ?_⟩
    rw [s.count_active_apply, s.count_active_apply, funext hmatches]
    exact (List.length_eq_length_filter_add f.compile.matches).symm

/-- Some currencies, with an operator for lists. -/
def euroOrDollar (operator : String) : List (String × Json.Value) :=
  [("property", .string "Currency"), ("operator", .string operator),
    ("value", .array [.string "978", .string "840"]), ("note", .null)]

theorem euro_or_dollar_splits : ∃ f f' : Filter AccountProperty,
    Filter.ofValue (.object (euroOrDollar "in")) = .ok f ∧
    Filter.ofValue (.object (euroOrDollar "NOT_IN")) = .ok f' ∧
    MemoryStore.sampleStore.count (f.apply .active) +
      MemoryStore.sampleStore.count (f'.apply .active) = MemoryStore.sampleStore.count .active := by
  have hnames {operator : String} {op : Operator} (hop : Operator.resolve operator = .ok op) :
      Names (euroOrDollar operator) .currency op
        (some (.array [.string "978", .string "840"])) :=
    ⟨fun kind => by cases kind <;> rfl, ⟨_, rfl, by decide⟩, ⟨_, rfl, hop⟩, rfl⟩
  have hin : Operator.resolve "in" = .ok .isIn := by decide
  have hnotIn : Operator.resolve "NOT_IN" = .ok .notIn := by decide
  obtain ⟨haccepted, hsplit⟩ := complementary_criteria_split rfl (hnames hin) (hnames hnotIn)
  have accepted : (Filter.ofValue (.object (euroOrDollar "in")) : Except QueryError
      (Filter AccountProperty)).toOption.any (fun _ => true) = true := by
    decide
  obtain ⟨f, hf, -⟩ := exists_ok_of_any accepted
  obtain ⟨f', hf'⟩ := haccepted.mp ⟨f, hf⟩
  exact ⟨f, f', hf, hf', (hsplit f f' hf hf' (by decide)).2 _⟩

end AccountRegistry
