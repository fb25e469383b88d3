import AccountRegistry.Proofs.Condition.Truth
import AccountRegistry.Proofs.Result

/-! # The meaning of filters

A filter has a meaning that is read off its JSON, without nodes and without conditions: lists give
the truth values of their items to the group around them, and a criterion compares the fields of its
property with its values. The condition that a filter compiles to has that meaning on every account.
-/

namespace AccountRegistry

/-! ## Criteria -/

section

variable {P : Type} [FilterProperty P]

/-- A text as a value of a property. -/
def coerced (p : P) (s : String) : Datum := ((FilterProperty.coerce p s).toOption).getD .null

def coercedItem (p : P) : Json.Value → Datum
  | .string s => coerced p s
  | _ => .null

/-- What the value of a criterion stands for; a missing value and null are no value. -/
def operandOf (p : P) : Option Json.Value → Operand
  | some (.string s) => .single (coerced p s)
  | some (.array items) => .list (items.map (coercedItem p))
  | _ => .absent

end

/-- An operator applied to the value of a field. -/
def Operator.truth (left : Datum) : Operator → Operand → Truth
  | .isNull, _ => some (left == .null)
  | .isNotNull, _ => some (left != .null)
  | .eq, .absent => some (left == .null)
  | .ne, .absent => some (left != .null)
  | .eq, .single d => Comparison.eval .eq left d
  | .ne, .single d => Comparison.eval .ne left d
  | .gt, .single d => Comparison.eval .gt left d
  | .lt, .single d => Comparison.eval .lt left d
  | .ge, .single d => Comparison.eval .ge left d
  | .le, .single d => Comparison.eval .le left d
  | .like, .single d => Comparison.eval .like left d
  | .ilike, .single d => Comparison.eval .ilike left d
  | .notIlike, .single d => Truth.not (Comparison.eval .ilike left d)
  | .isIn, .list ds => Truth.any (ds.map (Comparison.eval .eq left))
  | .notIn, .list ds => Truth.not (Truth.any (ds.map (Comparison.eval .eq left)))
  | _, _ => some false

section

variable (P : Type) [FilterProperty P] (a : Account)

/-- The truth value of a criterion: its operator holds for some field of its property. -/
def criterionTruth (ms : List (String × Json.Value)) : Truth :=
  match Json.member? "property" ms, Json.member? "operator" ms with
  | some (.string property), some (.string operator) =>
    match (FilterProperty.resolve property : Except QueryError P), Operator.resolve operator with
    | .ok p, .ok op =>
      Truth.any ((FilterProperty.fields p).toList.map fun f =>
        op.truth (a.get f) (operandOf p (Json.member? "value" ms)))
    | _, _ => none
  | _, _ => none

/-! ## Filters -/

mutual

/-- The truth values that a filter contributes to the group around it. -/
def nodeTruths : Json.Value → List Truth
  | .array items => itemTruths items
  | .object ms =>
    match truthsUnder "or" ms with
    | some ts => [Truth.any ts]
    | none =>
      match truthsUnder "and" ms with
      | some ts => [Truth.all ts]
      | none =>
        match truthsUnder "not" ms with
        | some ts => [Truth.not (Truth.all ts)]
        | none => [criterionTruth P a ms]
  | _ => []

def itemTruths : List Json.Value → List Truth
  | [] => []
  | v :: vs => nodeTruths v ++ itemTruths vs

/-- The truth values of the filter under a key, if the key is there. -/
def truthsUnder (key : String) : List (String × Json.Value) → Option (List Truth)
  | [] => none
  | (k, v) :: rest => if k = key then some (nodeTruths v) else truthsUnder key rest

end

/-- The truth value of a filter: all of its nodes hold. -/
def filterTruth (v : Json.Value) : Truth := Truth.all (nodeTruths P a v)

end

/-! ## Compiled criteria -/

theorem Operator.truth_apply (a : Account) (op : Operator) (f : Field) (x : Operand) :
    (op.apply f x).truth a = op.truth (a.get f) x := by
  cases op <;> cases x <;>
    simp only [Operator.apply, Operator.truth, Operator.comparison?, Condition.isNull,
      Condition.isNotNull, Condition.truth, Condition.truth_memberOf] <;> rfl

section

variable {P : Type} [FilterProperty P] (a : Account)

theorem Criterion.truth_compile (c : Criterion P) :
    c.compile.truth a = Truth.any ((FilterProperty.fields c.property).toList.map fun f =>
      c.operator.truth (a.get f) c.operand) := by
  rw [Criterion.compile, Condition.truth_disjunction, List.map_map]
  refine congrArg Truth.any (List.map_congr_left fun f _ => ?_)
  exact Operator.truth_apply a _ f _

theorem coerced_of_ok {p : P} {s : String} {d : Datum} (h : FilterProperty.coerce p s = .ok d) :
    coerced p s = d := by
  rw [coerced, h]
  rfl

theorem coercedItem_of_ok {p : P} {v : Json.Value} {d : Datum} (h : coerceItem p v = .ok d) :
    coercedItem p v = d := by
  cases v with
  | string s => exact coerced_of_ok h
  | _ => cases h

theorem operandOf_of_ok {p : P} {v : Option Json.Value} {x : Operand}
    (h : coerceOperand p v = .ok x) : operandOf p v = x := by
  match v with
  | none => exact Except.ok.inj h
  | some .null => exact Except.ok.inj h
  | some (.string s) =>
    obtain ⟨d, hd, rfl⟩ := map_eq_ok_iff.mp h
    exact congrArg Operand.single (coerced_of_ok hd)
  | some (.array items) =>
    obtain ⟨ds, hds, rfl⟩ := map_eq_ok_iff.mp h
    have hitems := (mapM_eq_ok_iff.mp hds).imp fun _ _ => coercedItem_of_ok
    rw [← List.forall₂_map_left_iff, List.forall₂_eq_eq_eq] at hitems
    exact congrArg Operand.list hitems
  | some (.bool _) | some (.number _) | some (.object _) => cases h

theorem requiredText_eq_ok {key s : String} {ms : List (String × Json.Value)}
    (h : requiredText key ms = .ok s) : Json.member? key ms = some (.string s) := by
  rw [requiredText] at h
  split at h
  · rename_i hm
    cases h
    exact hm
  · cases h
  · cases h

theorem criterionTruth_eq {ms : List (String × Json.Value)} {c : Criterion P}
    (h : Criterion.ofMembers ms = .ok c) : c.compile.truth a = criterionTruth P a ms := by
  obtain ⟨property, hproperty, h⟩ := bind_eq_ok_iff.mp h
  obtain ⟨p, hp, h⟩ := bind_eq_ok_iff.mp h
  obtain ⟨operator, hoperator, h⟩ := bind_eq_ok_iff.mp h
  obtain ⟨op, hop, h⟩ := bind_eq_ok_iff.mp h
  obtain ⟨x, hx, h⟩ := bind_eq_ok_iff.mp h
  obtain ⟨_, -, h⟩ := bind_eq_ok_iff.mp h
  cases h
  rw [Criterion.truth_compile, criterionTruth, requiredText_eq_ok hproperty,
    requiredText_eq_ok hoperator]
  simp only [hp, hop, operandOf_of_ok hx]

/-! ## Compiled filters -/

/-- The truth values of the conditions that some nodes compile to. -/
def compiledTruths (ns : List (FilterNode P)) : List Truth :=
  (FilterNode.compileAll ns).map (Condition.truth a)

theorem compileAll_append (ns ms : List (FilterNode P)) :
    FilterNode.compileAll (ns ++ ms) = FilterNode.compileAll ns ++ FilterNode.compileAll ms := by
  induction ns with
  | nil => rfl
  | cons n ns ih => rw [List.cons_append, FilterNode.compileAll, FilterNode.compileAll, ih,
      List.cons_append]

theorem compiledTruths_or (ns : List (FilterNode P)) :
    compiledTruths a [.group .or ns] = [Truth.any (compiledTruths a ns)] :=
  congrArg (fun t => [t]) (Condition.truth_disjunction a _)

theorem compiledTruths_and (ns : List (FilterNode P)) :
    compiledTruths a [.group .and ns] = [Truth.all (compiledTruths a ns)] :=
  congrArg (fun t => [t]) (Condition.truth_conjunction a _)

theorem compiledTruths_not (ns : List (FilterNode P)) :
    compiledTruths a [.group .not ns] = [Truth.not (Truth.all (compiledTruths a ns))] :=
  congrArg (fun t => [Truth.not t]) (Condition.truth_conjunction a _)

theorem truth_compileNodes (ns : List (FilterNode P)) :
    (compileNodes ns).truth a = Truth.all (compiledTruths a ns) :=
  Condition.truth_conjunction a _

mutual

/-- What is read from a value compiles to what the value means, node by node. -/
theorem compiledTruths_ofValue : ∀ (v : Json.Value) (ns : List (FilterNode P)),
    FilterNode.ofValue v = .ok ns → compiledTruths a ns = nodeTruths P a v
  | .array items, ns, h => by
    rw [nodeTruths]
    exact compiledTruths_ofItems items ns h
  | .object ms, ns, h => by
    simp only [FilterNode.ofValue, GroupKind.key] at h
    rw [nodeTruths]
    rcases truthsUnder_cases "or" ms with ⟨hr, ht⟩ | ⟨r, hr, ht⟩
    · rw [hr] at h
      rw [ht]
      rcases truthsUnder_cases "and" ms with ⟨hr, ht⟩ | ⟨r, hr, ht⟩
      · rw [hr] at h
        rw [ht]
        rcases truthsUnder_cases "not" ms with ⟨hr, ht⟩ | ⟨r, hr, ht⟩
        · rw [hr] at h
          rw [ht]
          obtain ⟨c, hc, rfl⟩ := map_eq_ok_iff.mp h
          exact congrArg (fun t => [t]) (criterionTruth_eq a hc)
        · rw [hr] at h
          obtain ⟨ns, hns, rfl⟩ := map_eq_ok_iff.mp h
          rw [ht ns hns, compiledTruths_not]
      · rw [hr] at h
        obtain ⟨ns, hns, rfl⟩ := map_eq_ok_iff.mp h
        rw [ht ns hns, compiledTruths_and]
    · rw [hr] at h
      obtain ⟨ns, hns, rfl⟩ := map_eq_ok_iff.mp h
      rw [ht ns hns, compiledTruths_or]
  | .null, ns, h | .bool _, ns, h | .number _, ns, h | .string _, ns, h => by cases h

theorem compiledTruths_ofItems : ∀ (items : List Json.Value) (ns : List (FilterNode P)),
    FilterNode.ofItems items = .ok ns → compiledTruths a ns = itemTruths P a items
  | [], ns, h => by
    cases h
    rfl
  | v :: vs, ns, h => by
    obtain ⟨ms, hms, h⟩ := bind_eq_ok_iff.mp h
    obtain ⟨rest, hrest, h⟩ := bind_eq_ok_iff.mp h
    cases h
    rw [itemTruths, compiledTruths, compileAll_append, List.map_append]
    exact congrArg₂ _ (compiledTruths_ofValue v ms hms) (compiledTruths_ofItems vs rest hrest)

/-- A key is there for the reader exactly if it is there for the meaning. -/
theorem truthsUnder_cases (key : String) : ∀ ms : List (String × Json.Value),
    (FilterNode.underKey (P := P) key ms = none ∧ truthsUnder P a key ms = none) ∨
    ∃ r : Except QueryError (List (FilterNode P)), FilterNode.underKey key ms = some r ∧
      ∀ ns, r = .ok ns → truthsUnder P a key ms = some (compiledTruths a ns)
  | [] => .inl ⟨rfl, rfl⟩
  | (k, v) :: rest => by
    rw [FilterNode.underKey, truthsUnder]
    by_cases hk : k = key
    · rw [if_pos hk, if_pos hk]
      exact .inr ⟨_, rfl, fun ns h => congrArg some (compiledTruths_ofValue v ns h).symm⟩
    · rw [if_neg hk, if_neg hk]
      exact truthsUnder_cases key rest

end

theorem nodes_of_ofValue {v : Json.Value} {f : Filter P} (h : Filter.ofValue v = .ok f) :
    FilterNode.ofValue v = .ok f.nodes := by
  obtain ⟨ns, hns, h⟩ := bind_eq_ok_iff.mp h
  rw [Filter.ofNodes] at h
  split at h
  · cases h
    exact hns
  · cases h

/-- A filter without nodes is true, so that leaving it out changes nothing. -/
theorem predicate_apply (f : Filter P) (q : Query) :
    (f.apply q).predicate.truth a = Truth.and (q.predicate.truth a) (f.compile.truth a) := by
  rw [Filter.apply]
  split
  · rename_i hn
    rw [Filter.compile, List.isEmpty_iff.mp hn]
    exact (Truth.and_true _).symm
  · exact Query.truth_restrict q _ a

/-- The condition of an accepted filter has the meaning of its JSON, and so restricts a query. -/
theorem eval_compile_eq_filterTruth {v : Json.Value} {f : Filter P}
    (h : Filter.ofValue v = .ok f) :
    f.compile.eval a = filterTruth P a v ∧
    ∀ q : Query, (f.apply q).predicate.eval a =
      Truth.and (q.predicate.eval a) (filterTruth P a v) := by
  have hc : f.compile.truth a = filterTruth P a v :=
    (truth_compileNodes a f.nodes).trans
      (congrArg Truth.all (compiledTruths_ofValue a v f.nodes (nodes_of_ofValue h)))
  refine ⟨(Condition.eval_eq_truth a _).trans hc, fun q => ?_⟩
  rw [Condition.eval_eq_truth, Condition.eval_eq_truth, predicate_apply, hc]

end

/-- A disjunction under which an inner list and a negation stand, beside a key that it hides. -/
def sampleFilter : Json.Value :=
  .object [("not", .null), ("or", .array [
    .array [.object
      [("property", .string "currency"), ("operator", .string "in"), ("value", .array [])]],
    .object [("not", .array [.object
      [("property", .string "client"), ("operator", .string "=")]])]])]

theorem sample_filter_means_true : ∃ f : Filter AccountProperty,
    Filter.ofValue sampleFilter = .ok f ∧ f.compile.eval default = some true := by
  have accepted : (Filter.ofValue sampleFilter : Except QueryError
      (Filter AccountProperty)).toOption.isSome = true := by decide
  cases h : (Filter.ofValue sampleFilter : Except QueryError (Filter AccountProperty)) with
  | error e =>
    rw [h] at accepted
    cases accepted
  | ok f =>
    have means := (eval_compile_eq_filterTruth default h).1
    exact ⟨f, rfl, means.trans (by decide)⟩

end AccountRegistry
