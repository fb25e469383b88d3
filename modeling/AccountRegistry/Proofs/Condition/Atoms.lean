import AccountRegistry.Proofs.Condition.Truth

/-! # Comparisons of conditions

A comparison is well typed if its value has the kind of its field and if it matches patterns against
texts only. A condition whose comparisons are well typed is true or false on every account.
-/

namespace AccountRegistry

/-! ## Kinds of values -/

inductive DatumKind | text | uuid | bool | timestamp | null
  deriving DecidableEq, Repr

def Datum.kind : Datum → DatumKind
  | .text _ => .text
  | .uuid _ => .uuid
  | .bool _ => .bool
  | .timestamp _ => .timestamp
  | .null => .null

def Field.kindOfValues : Field → DatumKind
  | .id => .uuid
  | .kind | .currency | .number | .companyId | .companyName => .text
  | .archived => .bool
  | .created | .modified => .timestamp

theorem Account.kind_get (a : Account) (f : Field) : (a.get f).kind = f.kindOfValues := by
  cases f <;> rfl

theorem Field.kindOfValues_ne_null (f : Field) : f.kindOfValues ≠ .null := by
  cases f <;> decide

theorem Datum.exists_text {d : Datum} (h : d.kind = .text) : ∃ s, d = .text s := by
  cases d with
  | text s => exact ⟨s, rfl⟩
  | _ => cases h

/-- Two values of one kind are in some order, unless they are both missing. -/
theorem Datum.exists_order {c d : Datum} (h : d.kind = c.kind) (hc : c.kind ≠ .null) :
    ∃ o, c.order? d = some o := by
  cases c <;> cases d <;> cases h
  case null.null => exact absurd rfl hc
  all_goals exact ⟨_, rfl⟩

def Comparison.isPattern : Comparison → Bool
  | .like | .ilike => true
  | _ => false

/-! ## Atoms -/

/-- One comparison of a condition. -/
structure Atom where
  field : Field
  op : Comparison
  value : Datum

/-- The value is of the kind of the field, and patterns are for texts. -/
structure Atom.WellTyped (x : Atom) : Prop where
  sameKind : x.op.takesValue = true → x.value.kind = x.field.kindOfValues
  onText : x.op.isPattern = true → x.field.kindOfValues = .text

theorem Atom.WellTyped.eval_isSome {x : Atom} (h : x.WellTyped) (a : Account) :
    (x.op.eval (a.get x.field) x.value).isSome = true := by
  obtain ⟨f, op, d⟩ := x
  have hleft := a.kind_get f
  have hordered (hd : d.kind = f.kindOfValues) : ∃ o, (a.get f).order? d = some o :=
    Datum.exists_order (hd.trans hleft.symm) (hleft ▸ f.kindOfValues_ne_null)
  cases op with
  | isNull | isNotNull => rfl
  | like | ilike =>
    have htext := h.onText rfl
    obtain ⟨s, hs⟩ := Datum.exists_text (hleft.trans htext)
    obtain ⟨p, hp⟩ := Datum.exists_text ((h.sameKind rfl).trans htext)
    simp only [Comparison.eval, hs, show d = .text p from hp, Option.isSome_some]
  | eq | ne | gt | lt | ge | le =>
    obtain ⟨o, ho⟩ := hordered (h.sameKind rfl)
    simp only [Comparison.eval, ho, Comparison.ofOrder, Option.isSome_some]

namespace Truth

theorem isSome_or {x y : Truth} (hx : x.isSome = true) (hy : y.isSome = true) :
    (or x y).isSome = true := by
  rcases x with _ | _ | _
  · cases hx
  · exact hy
  · rfl

theorem isSome_and {x y : Truth} (hx : x.isSome = true) (hy : y.isSome = true) :
    (and x y).isSome = true := by
  rcases x with _ | _ | _
  · cases hx
  · rfl
  · exact hy

theorem isSome_any {xs : List Truth} (h : ∀ x ∈ xs, x.isSome = true) : (any xs).isSome = true := by
  induction xs with
  | nil => rfl
  | cons x xs ih =>
    obtain ⟨hx, hxs⟩ := List.forall_mem_cons.mp h
    exact isSome_or hx (ih hxs)

theorem isSome_all {xs : List Truth} (h : ∀ x ∈ xs, x.isSome = true) : (all xs).isSome = true := by
  induction xs with
  | nil => rfl
  | cons x xs ih =>
    obtain ⟨hx, hxs⟩ := List.forall_mem_cons.mp h
    exact isSome_and hx (ih hxs)

end Truth

namespace Condition

mutual

/-- The comparisons of a condition; membership compares a field with every value of its list. -/
def atoms : Condition → List Atom
  | .compare f op d => [⟨f, op, d⟩]
  | .oneOf f ds => ds.map fun d => ⟨f, .eq, d⟩
  | .any cs | .all cs => atomsAll cs
  | .not c => c.atoms
  | .always | .never => []

def atomsAll : List Condition → List Atom
  | [] => []
  | c :: cs => c.atoms ++ atomsAll cs

end

theorem atomsAll_append (cs ds : List Condition) :
    atomsAll (cs ++ ds) = atomsAll cs ++ atomsAll ds := by
  induction cs with
  | nil => rfl
  | cons c cs ih => rw [List.cons_append, atomsAll, ih, atomsAll, List.append_assoc]

theorem atoms_memberOf (f : Field) (ds : List Datum) :
    (memberOf f ds).atoms = ds.map fun d => ⟨f, .eq, d⟩ := by
  cases ds <;> rfl

theorem atoms_disjunction (cs : List Condition) : (disjunction cs).atoms = atomsAll cs := by
  match cs with
  | [] => rfl
  | [c] => exact (List.append_nil _).symm
  | _ :: _ :: _ => rfl

theorem atoms_conjunction (cs : List Condition) : (conjunction cs).atoms = atomsAll cs := by
  match cs with
  | [] => rfl
  | [c] => exact (List.append_nil _).symm
  | _ :: _ :: _ => rfl

mutual

theorem truth_isSome (a : Account) :
    ∀ c : Condition, (∀ x ∈ c.atoms, x.WellTyped) → (c.truth a).isSome = true
  | .compare f op d, h => (h ⟨f, op, d⟩ (.head _)).eval_isSome a
  | .oneOf f ds, h => by
    refine Truth.isSome_any fun t ht => ?_
    obtain ⟨d, hd, rfl⟩ := List.mem_map.mp ht
    exact (h ⟨f, .eq, d⟩ (List.mem_map_of_mem hd)).eval_isSome a
  | .any cs, h => Truth.isSome_any (truths_isSome a cs h)
  | .all cs, h => Truth.isSome_all (truths_isSome a cs h)
  | .not c, h => by
    rw [truth, Truth.not, Option.isSome_map]
    exact truth_isSome a c h
  | .always, _ | .never, _ => rfl

theorem truths_isSome (a : Account) :
    ∀ cs : List Condition, (∀ x ∈ atomsAll cs, x.WellTyped) →
      ∀ t ∈ truths a cs, t.isSome = true
  | [], _ => by simp [truths]
  | c :: cs, h => by
    obtain ⟨hc, hcs⟩ := List.forall_mem_append.mp h
    exact List.forall_mem_cons.mpr ⟨truth_isSome a c hc, truths_isSome a cs hcs⟩

end

mutual

/-- A condition looks at nothing but the fields it compares. -/
theorem truth_congr {a b : Account} :
    ∀ c : Condition, (∀ x ∈ c.atoms, a.get x.field = b.get x.field) → c.truth a = c.truth b
  | .compare f op d, h => by rw [truth, truth, h ⟨f, op, d⟩ (.head _)]
  | .oneOf f [], _ => rfl
  | .oneOf f (d :: ds), h => by rw [truth, truth, h ⟨f, .eq, d⟩ (.head _)]
  | .any cs, h => congrArg Truth.any (truths_congr cs h)
  | .all cs, h => congrArg Truth.all (truths_congr cs h)
  | .not c, h => congrArg Truth.not (truth_congr c h)
  | .always, _ | .never, _ => rfl

theorem truths_congr {a b : Account} :
    ∀ cs : List Condition, (∀ x ∈ atomsAll cs, a.get x.field = b.get x.field) →
      truths a cs = truths b cs
  | [], _ => rfl
  | c :: cs, h => by
    obtain ⟨hc, hcs⟩ := List.forall_mem_append.mp h
    rw [truths, truths, truth_congr c hc, truths_congr cs hcs]

end

theorem eval_isSome {c : Condition} (h : ∀ x ∈ c.atoms, x.WellTyped) (a : Account) :
    (c.eval a).isSome = true := by
  rw [eval_eq_truth]
  exact truth_isSome a c h

/-- Where a condition is decided, its negation matches the other accounts. -/
theorem matches_not {c : Condition} {a : Account} (h : (c.eval a).isSome = true) :
    (Condition.not c).matches a = !c.matches a := by
  obtain ⟨b, hb⟩ := Option.isSome_iff_exists.mp h
  rw [«matches», «matches», eval, hb]
  cases b <;> rfl

end Condition

end AccountRegistry
