import AccountRegistry.Proofs.Condition.Atoms
import AccountRegistry.Proofs.Filter.Grammar
import AccountRegistry.Proofs.Store.Visibility

/-! # Decided filters

The values of an accepted filter are of the kinds of their fields, so each of its criteria is true
or false on every account, except for a pattern that is matched against the moment of the last
change: that is unknown on all accounts.
-/

namespace AccountRegistry

/-! ## Criteria of a filter -/

namespace FilterNode

mutual

/-- The criteria of a node, from left to right. -/
def leaves {P : Type} : FilterNode P → List (Criterion P)
  | .leaf c => [c]
  | .group _ children => leavesAll children

def leavesAll {P : Type} : List (FilterNode P) → List (Criterion P)
  | [] => []
  | n :: ns => n.leaves ++ leavesAll ns

end

theorem leavesAll_append {P : Type} (ns ms : List (FilterNode P)) :
    leavesAll (ns ++ ms) = leavesAll ns ++ leavesAll ms := by
  induction ns with
  | nil => rfl
  | cons n ns ih => rw [List.cons_append, leavesAll, leavesAll, ih, List.append_assoc]

variable {P : Type} [FilterProperty P]

theorem atoms_combine (kind : GroupKind) (cs : List Condition) :
    (kind.combine cs).atoms = Condition.atomsAll cs := by
  cases kind with
  | or => exact Condition.atoms_disjunction cs
  | and => exact Condition.atoms_conjunction cs
  | not => exact Condition.atoms_conjunction cs

mutual

/-- A node compares what its criteria compare. -/
theorem atoms_compile : ∀ n : FilterNode P,
    n.compile.atoms = n.leaves.flatMap fun c => c.compile.atoms
  | .leaf c => by rw [compile, leaves, List.flatMap_singleton]
  | .group kind children => by
    rw [compile, atoms_combine, atomsAll_compileAll children, leaves]

theorem atomsAll_compileAll : ∀ ns : List (FilterNode P),
    Condition.atomsAll (compileAll ns) = (leavesAll ns).flatMap fun c => c.compile.atoms
  | [] => rfl
  | n :: ns => by
    rw [compileAll, Condition.atomsAll, atoms_compile n, atomsAll_compileAll ns, leavesAll,
      List.flatMap_append]

end

end FilterNode

section

variable {P : Type} [FilterProperty P]

mutual

theorem isCriterion_of_isFilter : ∀ {v : Json.Value} {ns : List (FilterNode P)},
    IsFilter v ns → ∀ c ∈ FilterNode.leavesAll ns, ∃ ms, IsCriterion ms c
  | _, _, .list each => isCriterion_of_isFilters each
  | _, _, .group _ inner => by
    rw [FilterNode.leavesAll, FilterNode.leavesAll, List.append_nil, FilterNode.leaves]
    exact isCriterion_of_isFilter inner
  | .object ms, _, .criterion _ spelled => by
    intro c hc
    rw [FilterNode.leavesAll, FilterNode.leavesAll, List.append_nil, FilterNode.leaves] at hc
    exact ⟨ms, List.mem_singleton.mp hc ▸ spelled⟩

theorem isCriterion_of_isFilters : ∀ {items : List Json.Value} {ns : List (FilterNode P)},
    IsFilters items ns → ∀ c ∈ FilterNode.leavesAll ns, ∃ ms, IsCriterion ms c
  | _, _, .nil => by simp [FilterNode.leavesAll]
  | _, _, .cons head tail => by
    rw [FilterNode.leavesAll_append]
    exact List.forall_mem_append.mpr
      ⟨isCriterion_of_isFilter head, isCriterion_of_isFilters tail⟩

end

/-- The criteria of a filter. -/
def Filter.leaves (f : Filter P) : List (Criterion P) := FilterNode.leavesAll f.nodes

theorem Filter.isCriterion_of_mem_leaves {v : Json.Value} {f : Filter P}
    (h : Filter.ofValue v = .ok f) {c : Criterion P} (hc : c ∈ f.leaves) :
    ∃ ms, IsCriterion ms c :=
  isCriterion_of_isFilter (isFilter_of_ofValue v _ (nodes_of_ofValue h)) c hc

theorem Filter.forall_mem_atoms_compile {f : Filter P} {p : Atom → Prop} :
    (∀ x ∈ f.compile.atoms, p x) ↔ ∀ c ∈ f.leaves, ∀ x ∈ c.compile.atoms, p x := by
  rw [Filter.compile, compileNodes, Condition.atoms_conjunction, FilterNode.atomsAll_compileAll,
    List.forall_mem_flatMap, Filter.leaves]

end

/-! ## Comparisons of a criterion -/

/-- The values of an operand. -/
def Operand.values : Operand → List Datum
  | .absent => []
  | .single d => [d]
  | .list ds => ds

/-- Every value of an accepted operand is read from a text. -/
theorem IsOperand.exists_coerce {P : Type} [FilterProperty P] {p : P} {v : Option Json.Value}
    {x : Operand} (h : IsOperand p v x) :
    ∀ d ∈ x.values, ∃ s, FilterProperty.coerce p s = .ok d := by
  cases h with
  | missing | null => exact List.forall_mem_nil _
  | single read => exact List.forall_mem_singleton.mpr ⟨_, read⟩
  | list read =>
    rw [Operand.values]
    induction read with
    | nil => exact List.forall_mem_nil _
    | cons hd _ ih => exact List.forall_mem_cons.mpr ⟨⟨_, hd⟩, ih⟩

/-- Whether an operator matches patterns. -/
def Operator.isPattern : Operator → Bool
  | .like | .ilike | .notIlike => true
  | _ => false

/-- An operator compares its field with its values, and matches patterns if that is what it does. -/
theorem Operator.of_mem_atoms_apply (op : Operator) (f : Field) (x : Operand) :
    ∀ y ∈ (op.apply f x).atoms, y.field = f ∧ (y.op.takesValue = true → y.value ∈ x.values) ∧
      (y.op.isPattern = true → op.isPattern = true) := by
  cases op <;> cases x <;>
    simp [apply, comparison?, Condition.atoms, Condition.atoms_memberOf, Condition.isNull,
      Condition.isNotNull, Operand.values, Comparison.takesValue, Comparison.isPattern, isPattern]

/-- A pattern is compared with the field itself. -/
theorem Operator.exists_pattern_atom {op : Operator} (h : op.isPattern = true) (f : Field)
    (d : Datum) : ∃ y ∈ (op.apply f (.single d)).atoms, y.field = f ∧ y.op.isPattern = true := by
  cases op <;> cases h <;> exact ⟨_, .head _, rfl, rfl⟩

/-- The operators for patterns take one value. -/
theorem Operator.forms_of_isPattern {op : Operator} (h : op.isPattern = true) :
    op.forms = [.single] := by
  cases op <;> first | rfl | cases h

/-- No moment matches a pattern, and none fails to match it. -/
theorem Operator.eval_apply_modified {op : Operator} (h : op.isPattern = true) (d : Datum)
    (a : Account) : (op.apply .modified (.single d)).eval a = none := by
  cases op <;> first | rfl | cases h

theorem Operand.exists_single {x : Operand} (h : x.form = .single) : ∃ d, x = .single d := by
  cases x with
  | single d => exact ⟨d, rfl⟩
  | _ => cases h

namespace AccountProperty

theorem kindOfValues_eq_text_iff {p : AccountProperty} :
    p.field.kindOfValues = .text ↔ p ≠ .modified := by
  cases p <;> decide

/-- A property reads its values in the kind of its field. -/
theorem kind_of_coerce {p : AccountProperty} {s : String} {d : Datum} (h : p.coerce s = .ok d) :
    d.kind = p.field.kindOfValues := by
  cases p with
  | client =>
    cases h
    rfl
  | kind | clientId | currency | modified =>
    obtain ⟨_, -, rfl⟩ := map_eq_ok_iff.mp (mapError_eq_ok_iff.mp h)
    rfl

theorem kind_of_isOperand {p : AccountProperty} {v : Option Json.Value} {x : Operand}
    (h : IsOperand p v x) : ∀ d ∈ x.values, d.kind = p.field.kindOfValues := by
  intro d hd
  obtain ⟨s, hs⟩ := h.exists_coerce d hd
  exact kind_of_coerce hs

end AccountProperty

/-! ## Accepted criteria -/

/-- A pattern is matched against the moment of the last change. -/
def Criterion.MatchesInstant (c : Criterion AccountProperty) : Prop :=
  c.operator.isPattern = true ∧ c.property = .modified

instance (c : Criterion AccountProperty) : Decidable c.MatchesInstant :=
  inferInstanceAs (Decidable (_ ∧ _))

theorem Criterion.compile_eq_apply (c : Criterion AccountProperty) :
    c.compile = c.operator.apply c.property.field c.operand := rfl

theorem Criterion.of_mem_atoms_compile {c : Criterion AccountProperty} {x : Atom}
    (h : x ∈ c.compile.atoms) : x.field = c.property.field ∧
      (x.op.takesValue = true → x.value ∈ c.operand.values) ∧
      (x.op.isPattern = true → c.operator.isPattern = true) :=
  Operator.of_mem_atoms_apply c.operator c.property.field c.operand x h

namespace IsCriterion

variable {ms : List (String × Json.Value)} {c : Criterion AccountProperty}

theorem sameKind (h : IsCriterion ms c) : ∀ x ∈ c.compile.atoms, x.op.takesValue = true →
    x.value.kind = x.field.kindOfValues := by
  intro x hx htakes
  obtain ⟨hfield, hvalue, -⟩ := Criterion.of_mem_atoms_compile hx
  rw [hfield]
  exact AccountProperty.kind_of_isOperand h.operand _ (hvalue htakes)

theorem exists_single (h : IsCriterion ms c) (hp : c.operator.isPattern = true) :
    ∃ d, c.operand = .single d := by
  have hform := h.suits
  rw [Operator.forms_of_isPattern hp, List.mem_singleton] at hform
  exact Operand.exists_single hform

theorem wellTyped_iff (h : IsCriterion ms c) :
    (∀ x ∈ c.compile.atoms, x.WellTyped) ↔ ¬ c.MatchesInstant := by
  constructor
  · rintro hall ⟨hp, hmodified⟩
    obtain ⟨d, hd⟩ := h.exists_single hp
    obtain ⟨x, hx, hfield, hpattern⟩ := Operator.exists_pattern_atom hp c.property.field d
    rw [Criterion.compile_eq_apply, hd] at hall
    have htext := (hall x hx).onText hpattern
    rw [hfield, AccountProperty.kindOfValues_eq_text_iff] at htext
    exact htext hmodified
  · intro hno x hx
    obtain ⟨hfield, -, hpattern⟩ := Criterion.of_mem_atoms_compile hx
    refine ⟨h.sameKind x hx, fun hp => ?_⟩
    rw [hfield, AccountProperty.kindOfValues_eq_text_iff]
    exact fun hmodified => hno ⟨hpattern hp, hmodified⟩

theorem eval_eq_none (h : IsCriterion ms c) (hc : c.MatchesInstant) (a : Account) :
    c.compile.eval a = none := by
  obtain ⟨hp, hmodified⟩ := hc
  obtain ⟨d, hd⟩ := h.exists_single hp
  rw [Criterion.compile_eq_apply, hmodified, hd]
  exact Operator.eval_apply_modified hp d a

end IsCriterion

/-! ## Accepted filters -/

namespace MemoryStore

variable (s : MemoryStore)

theorem fetch_active_restrict (c : Condition) :
    s.fetch (Query.active.restrict c) = (s.fetch .active).filter c.matches :=
  select_restrict s.distinct _ _

theorem fetch_active_apply {P : Type} [FilterProperty P] (f : Filter P) :
    s.fetch (f.apply .active) = (s.fetch .active).filter f.compile.matches := by
  have hwindow : (f.apply .active).window = .all := by
    rw [Filter.apply]
    split <;> rfl
  rw [fetch, hwindow]
  exact select_apply s.distinct f .active

end MemoryStore

/-- The accounts on which a filter holds and those on which its negation holds make up all active
accounts, each once. -/
def Filter.Splits {P : Type} [FilterProperty P] (f : Filter P) (s : MemoryStore) : Prop :=
  (s.fetch (f.apply .active)).Disjoint (s.fetch (Query.active.restrict (.not f.compile))) ∧
  (s.fetch (f.apply .active) ++ s.fetch (Query.active.restrict (.not f.compile))).Perm
    (s.fetch .active)

theorem Filter.splits_of_isSome {P : Type} [FilterProperty P] {f : Filter P}
    (h : ∀ a, (f.compile.eval a).isSome = true) (s : MemoryStore) : f.Splits s := by
  have hnot : (Condition.not f.compile).matches = fun a => !f.compile.matches a :=
    funext fun a => Condition.matches_not (h a)
  rw [Splits, s.fetch_active_restrict, s.fetch_active_apply, hnot]
  refine ⟨fun a ha ha' => ?_, List.filter_append_perm _ _⟩
  rw [List.mem_filter] at ha ha'
  rw [ha.2] at ha'
  exact absurd ha'.2 (by decide)

/-- Only patterns for the moment of the last change make an accepted filter ill typed. -/
theorem Filter.wellTyped_iff {v : Json.Value} {f : Filter AccountProperty}
    (h : Filter.ofValue v = .ok f) :
    (∀ x ∈ f.compile.atoms, x.WellTyped) ↔ ∀ c ∈ f.leaves, ¬ c.MatchesInstant := by
  rw [Filter.forall_mem_atoms_compile]
  refine forall₂_congr fun c hc => ?_
  obtain ⟨ms, hms⟩ := Filter.isCriterion_of_mem_leaves h hc
  exact hms.wellTyped_iff

/-- The values of an accepted filter are of the kinds of their fields. If no criterion matches a
pattern against the moment of the last change then the filter is true or false on every account, and
splits the active accounts of every store. A criterion that does so is unknown on all accounts. -/
theorem accepted_filter_decides {v : Json.Value} {f : Filter AccountProperty}
    (h : Filter.ofValue v = .ok f) :
    (∀ x ∈ f.compile.atoms, x.op.takesValue = true → x.value.kind = x.field.kindOfValues) ∧
    ((∀ x ∈ f.compile.atoms, x.WellTyped) ↔ ∀ c ∈ f.leaves, ¬ c.MatchesInstant) ∧
    (∀ c ∈ f.leaves, c.MatchesInstant → ∀ a, c.compile.eval a = none) ∧
    ((∀ c ∈ f.leaves, ¬ c.MatchesInstant) →
      (∀ a, f.compile.eval a = some true ∨ f.compile.eval a = some false) ∧
      ∀ s : MemoryStore, f.Splits s) := by
  refine ⟨Filter.forall_mem_atoms_compile.mpr fun c hc => ?_, Filter.wellTyped_iff h,
    fun c hc hinstant a => ?_, fun hall => ?_⟩
  · obtain ⟨ms, hms⟩ := Filter.isCriterion_of_mem_leaves h hc
    exact hms.sameKind
  · obtain ⟨ms, hms⟩ := Filter.isCriterion_of_mem_leaves h hc
    exact hms.eval_eq_none hinstant a
  · have hsome (a : Account) := Condition.eval_isSome ((Filter.wellTyped_iff h).mpr hall) a
    refine ⟨fun a => ?_, Filter.splits_of_isSome hsome⟩
    obtain ⟨b, hb⟩ := Option.isSome_iff_exists.mp (hsome a)
    cases b with
    | true => exact .inl hb
    | false => exact .inr hb

/-- A pattern for a name, or no change since the start of a year. -/
def quietOrNamed : Json.Value :=
  .object [("or", .array [
    .object
      [("property", .string "client"), ("operator", .string "ilike"), ("value", .string "%acme%")],
    .object [("not", .object
      [("property", .string "modified"), ("operator", .string ">="),
        ("value", .string "2024-01-01")])]])]

theorem quiet_or_named_splits : ∃ f : Filter AccountProperty,
    Filter.ofValue quietOrNamed = .ok f ∧ (∀ c ∈ f.leaves, ¬ c.MatchesInstant) ∧
    f.Splits MemoryStore.sampleStore := by
  have accepted : (Filter.ofValue quietOrNamed : Except QueryError
      (Filter AccountProperty)).toOption.any
        (fun f => decide (∀ c ∈ f.leaves, ¬ c.MatchesInstant)) = true := by
    decide +kernel
  obtain ⟨f, h, hplain⟩ := exists_ok_of_any accepted
  rw [decide_eq_true_iff] at hplain
  obtain ⟨-, -, -, hdecided⟩ := accepted_filter_decides h
  exact ⟨f, h, hplain, (hdecided hplain).2 _⟩

/-- A moment in the place of a pattern. -/
def instantPattern : Json.Value :=
  .object [("property", .string "modified"), ("operator", .string "like"),
    ("value", .string "2024-01-01")]

/-- The filter is accepted, but an active account is neither among its rows nor among those of its
negation. -/
theorem instant_pattern_is_undecided : ∃ f : Filter AccountProperty,
    Filter.ofValue instantPattern = .ok f ∧
    f.compile.eval { (default : Account) with id := .ofNat 1 } = none ∧
    ¬ f.Splits MemoryStore.sampleStore := by
  have accepted : (Filter.ofValue instantPattern : Except QueryError
      (Filter AccountProperty)).toOption.any
        (fun f => f.compile.eval { (default : Account) with id := .ofNat 1 } == none) = true := by
    decide +kernel
  obtain ⟨f, h, hnone⟩ := exists_ok_of_any accepted
  rw [beq_iff_eq] at hnone
  refine ⟨f, h, hnone, fun hsplits => ?_⟩
  have hactive : { (default : Account) with id := .ofNat 1 } ∈
      MemoryStore.sampleStore.fetch .active := MemoryStore.mem_select.mpr (by decide)
  rw [← hsplits.2.mem_iff, List.mem_append, MemoryStore.fetch_active_apply,
    MemoryStore.fetch_active_restrict, List.mem_filter, List.mem_filter] at hactive
  simp [Condition.matches, Condition.eval, hnone] at hactive

end AccountRegistry
