import AccountRegistry.Proofs.Condition.Truth
import Mathlib.Data.Sign.Defs

/-! # Conditions in Kleene's logic

False, unknown and true stand in this order. A conjunction is the least of its children and a
disjunction the greatest, so that neither the arrangement of the children nor their grouping matters
for what a condition evaluates to.
-/

namespace AccountRegistry

/-! ## The order of truth values -/

/-- The place of a truth value in the order: false comes before unknown, and unknown before true. -/
def Truth.degree : Truth → SignType
  | some false => -1
  | none => 0
  | some true => 1

namespace Truth

theorem degree_injective : Function.Injective degree := by
  intro x y h
  rcases x with _ | _ | _ <;> rcases y with _ | _ | _ <;> first | rfl | cases h

/-- The greatest of some degrees; false if there are none. -/
def greatest (xs : List SignType) : SignType := xs.foldr max (-1)

/-- The least of some degrees; true if there are none. -/
def least (xs : List SignType) : SignType := xs.foldr min 1

theorem greatest_cons (x : SignType) (xs : List SignType) :
    greatest (x :: xs) = max x (greatest xs) := rfl

theorem least_cons (x : SignType) (xs : List SignType) : least (x :: xs) = min x (least xs) := rfl

theorem greatest_le_iff {xs : List SignType} {b : SignType} :
    greatest xs ≤ b ↔ ∀ x ∈ xs, x ≤ b := by
  induction xs with
  | nil => simp [greatest]
  | cons x xs ih => rw [greatest_cons, max_le_iff, ih, List.forall_mem_cons]

theorem le_least_iff {xs : List SignType} {b : SignType} :
    b ≤ least xs ↔ ∀ x ∈ xs, b ≤ x := by
  induction xs with
  | nil => simp [least]
  | cons x xs ih => rw [least_cons, le_min_iff, ih, List.forall_mem_cons]

theorem greatest_pair (x y : SignType) : greatest [x, y] = max x y := by
  revert x y
  decide

theorem greatest_mono {xs ys : List SignType} (h : xs ⊆ ys) : greatest xs ≤ greatest ys :=
  greatest_le_iff.mpr fun x hx => greatest_le_iff.mp le_rfl x (h hx)

theorem least_anti {xs ys : List SignType} (h : xs ⊆ ys) : least ys ≤ least xs :=
  le_least_iff.mpr fun x hx => le_least_iff.mp le_rfl x (h hx)

theorem greatest_append (xs ys : List SignType) :
    greatest (xs ++ ys) = max (greatest xs) (greatest ys) :=
  eq_of_forall_ge_iff fun b => by simp only [greatest_le_iff, List.forall_mem_append, max_le_iff]

theorem least_append (xs ys : List SignType) :
    least (xs ++ ys) = min (least xs) (least ys) :=
  eq_of_forall_le_iff fun b => by simp only [le_least_iff, List.forall_mem_append, le_min_iff]

theorem neg_greatest (xs : List SignType) : -greatest xs = least (xs.map (-·)) := by
  have hneg : ∀ x y : SignType, -max x y = min (-x) (-y) := by decide
  induction xs with
  | nil => rfl
  | cons x xs ih => rw [greatest_cons, hneg, ih, List.map_cons, least_cons]

theorem neg_least (xs : List SignType) : -least xs = greatest (xs.map (-·)) := by
  have hneg : ∀ x y : SignType, -min x y = max (-x) (-y) := by decide
  induction xs with
  | nil => rfl
  | cons x xs ih => rw [least_cons, hneg, ih, List.map_cons, greatest_cons]

theorem degree_not (x : Truth) : (not x).degree = -x.degree := by
  rcases x with _ | _ | _ <;> rfl

theorem degree_or (x y : Truth) : (or x y).degree = max x.degree y.degree := by
  rcases x with _ | _ | _ <;> rcases y with _ | _ | _ <;> decide

theorem degree_and (x y : Truth) : (and x y).degree = min x.degree y.degree := by
  rcases x with _ | _ | _ <;> rcases y with _ | _ | _ <;> decide

theorem degree_any (xs : List Truth) : (any xs).degree = greatest (xs.map degree) := by
  induction xs with
  | nil => rfl
  | cons x xs ih => rw [any_cons, degree_or, ih, List.map_cons, greatest_cons]

theorem degree_all (xs : List Truth) : (all xs).degree = least (xs.map degree) := by
  induction xs with
  | nil => rfl
  | cons x xs ih => rw [all_cons, degree_and, ih, List.map_cons, least_cons]

end Truth

namespace Condition

open Truth

mutual

/-- How true a condition is: comparisons as they are, a disjunction as its greatest child, a
conjunction as its least, and a negation on the other side of unknown. -/
def degree (a : Account) : Condition → SignType
  | .compare field op value => Truth.degree (op.eval (a.get field) value)
  | .oneOf field values =>
    greatest (values.map fun d => Truth.degree (Comparison.eval .eq (a.get field) d))
  | .any cs => greatest (degrees a cs)
  | .all cs => least (degrees a cs)
  | .not c => -c.degree a
  | .always => 1
  | .never => -1

def degrees (a : Account) : List Condition → List SignType
  | [] => []
  | c :: cs => c.degree a :: degrees a cs

end

theorem degrees_eq_map (a : Account) (cs : List Condition) : degrees a cs = cs.map (degree a) := by
  induction cs with
  | nil => rfl
  | cons c cs ih => rw [degrees, ih, List.map_cons]

mutual

theorem degree_truth (a : Account) : ∀ c : Condition, (c.truth a).degree = c.degree a
  | .compare _ _ _ => rfl
  | .oneOf _ _ => by rw [truth, degree, degree_any, List.map_map]; rfl
  | .any cs => by rw [truth, degree, degree_any, degrees_truths a cs]
  | .all cs => by rw [truth, degree, degree_all, degrees_truths a cs]
  | .not c => by rw [truth, degree, degree_not, degree_truth a c]
  | .always | .never => rfl

theorem degrees_truths (a : Account) :
    ∀ cs : List Condition, (truths a cs).map Truth.degree = degrees a cs
  | [] => rfl
  | c :: cs => by rw [truths, degrees, List.map_cons, degree_truth a c, degrees_truths a cs]

end

theorem degree_eval (a : Account) (c : Condition) : Truth.degree (c.eval a) = c.degree a := by
  rw [eval_eq_truth, degree_truth]

theorem degree_any (a : Account) (cs : List Condition) :
    degree a (.any cs) = greatest (cs.map (degree a)) := by
  rw [degree, degrees_eq_map]

theorem degree_all (a : Account) (cs : List Condition) :
    degree a (.all cs) = least (cs.map (degree a)) := by
  rw [degree, degrees_eq_map]

theorem degree_not (a : Account) (c : Condition) : degree a (.not c) = -degree a c := by
  rw [degree]

/-! ## Arrangement -/

/-- Conditions that say the same with their parts arranged otherwise, at any depth. -/
inductive Rearranged : Condition → Condition → Prop
  | refl (c) : Rearranged c c
  | symm {c d} : Rearranged c d → Rearranged d c
  | trans {c d e} : Rearranged c d → Rearranged d e → Rearranged c e
  | inAny (before after) {c d} : Rearranged c d →
    Rearranged (.any (before ++ c :: after)) (.any (before ++ d :: after))
  | inAll (before after) {c d} : Rearranged c d →
    Rearranged (.all (before ++ c :: after)) (.all (before ++ d :: after))
  | inNot {c d} : Rearranged c d → Rearranged (.not c) (.not d)
  /-- Children in another order, or some of them several times. -/
  | anyChildren {cs ds : List Condition} : cs ⊆ ds → ds ⊆ cs → Rearranged (.any cs) (.any ds)
  | allChildren {cs ds : List Condition} : cs ⊆ ds → ds ⊆ cs → Rearranged (.all cs) (.all ds)
  | oneOfValues (field) {ds es : List Datum} : ds ⊆ es → es ⊆ ds →
    Rearranged (.oneOf field ds) (.oneOf field es)
  /-- Some children in a group of their own. -/
  | anyGroup (before group after) :
    Rearranged (.any (before ++ group ++ after)) (.any (before ++ .any group :: after))
  | allGroup (before group after) :
    Rearranged (.all (before ++ group ++ after)) (.all (before ++ .all group :: after))
  | oneOfGroup (field ds es) :
    Rearranged (.oneOf field (ds ++ es)) (.any [.oneOf field ds, .oneOf field es])
  /-- Membership as equality with one of the values. -/
  | oneOfEq (field) (ds : List Datum) :
    Rearranged (.oneOf field ds) (.any (ds.map (.compare field .eq)))
  /-- What the constructors for one or no child build. -/
  | disjunction (cs) : Rearranged (.any cs) (disjunction cs)
  | conjunction (cs) : Rearranged (.all cs) (conjunction cs)
  | memberOf (field ds) : Rearranged (.oneOf field ds) (memberOf field ds)
  /-- De Morgan's laws. -/
  | notAny (cs : List Condition) : Rearranged (.not (.any cs)) (.all (cs.map .not))
  | notAll (cs : List Condition) : Rearranged (.not (.all cs)) (.any (cs.map .not))

theorem degree_disjunction (a : Account) (cs : List Condition) :
    (disjunction cs).degree a = greatest (cs.map (degree a)) := by
  rw [← degree_truth, truth_disjunction, Truth.degree_any, List.map_map]
  exact congrArg greatest (List.map_congr_left fun c _ => degree_truth a c)

theorem degree_conjunction (a : Account) (cs : List Condition) :
    (conjunction cs).degree a = least (cs.map (degree a)) := by
  rw [← degree_truth, truth_conjunction, Truth.degree_all, List.map_map]
  exact congrArg least (List.map_congr_left fun c _ => degree_truth a c)

theorem degree_map_not (a : Account) (cs : List Condition) :
    (cs.map .not).map (degree a) = (cs.map (degree a)).map (-·) := by
  rw [List.map_map, List.map_map]
  exact List.map_congr_left fun _ _ => rfl

/-- The arrangement of its parts does not matter for how true a condition is. -/
theorem Rearranged.degree_eq {c d : Condition} (h : Rearranged c d) (a : Account) :
    c.degree a = d.degree a := by
  induction h with
  | refl => rfl
  | symm _ ih => exact ih.symm
  | trans _ _ ih ih' => exact ih.trans ih'
  | inAny _ _ _ ih =>
    simp only [degree_any, List.map_append, List.map_cons, ih]
  | inAll _ _ _ ih =>
    simp only [degree_all, List.map_append, List.map_cons, ih]
  | inNot _ ih => rw [degree_not, degree_not, ih]
  | anyChildren h h' =>
    rw [degree_any, degree_any]
    exact le_antisymm (greatest_mono (List.map_subset _ h)) (greatest_mono (List.map_subset _ h'))
  | allChildren h h' =>
    rw [degree_all, degree_all]
    exact le_antisymm (least_anti (List.map_subset _ h')) (least_anti (List.map_subset _ h))
  | oneOfValues _ h h' =>
    rw [degree, degree]
    exact le_antisymm (greatest_mono (List.map_subset _ h)) (greatest_mono (List.map_subset _ h'))
  | anyGroup =>
    simp only [degree_any, List.map_append, List.map_cons, greatest_append, greatest_cons,
      max_assoc]
  | allGroup =>
    simp only [degree_all, List.map_append, List.map_cons, least_append, least_cons, min_assoc]
  | oneOfGroup =>
    rw [degree_any]
    simp only [List.map_cons, List.map_nil, degree, List.map_append, greatest_append,
      greatest_pair]
  | oneOfEq =>
    rw [degree_any, List.map_map, degree]
    rfl
  | disjunction => rw [degree_any, degree_disjunction]
  | conjunction => rw [degree_all, degree_conjunction]
  | memberOf _ ds => cases ds <;> rfl
  | notAny => rw [degree_not, degree_any, degree_all, degree_map_not, neg_greatest]
  | notAll => rw [degree_not, degree_any, degree_all, degree_map_not, neg_least]

/-- Evaluation is Kleene's strong logic, and conditions that differ in their arrangement only
evaluate alike on every account. -/
theorem eval_is_kleene (a : Account) :
    (∀ c : Condition, Truth.degree (c.eval a) = c.degree a) ∧
    ∀ c d : Condition, Rearranged c d → c.eval a = d.eval a := by
  refine ⟨degree_eval a, fun c d h => Truth.degree_injective ?_⟩
  rw [degree_eval, degree_eval, h.degree_eq]

/-- A negated group with an unknown child twice, and the conjunction that it amounts to. -/
theorem eval_is_kleene_notAny :
    let unknown : Condition := .compare .modified .eq (.text "2024-02-01")
    let values : List Datum := [.text "840", .null]
    let c : Condition := .not (.any [unknown, .oneOf .currency values, unknown])
    let d : Condition := .all [.not (.any (values.map (.compare .currency .eq))), .not unknown]
    Rearranged c d ∧ c.eval default = d.eval default ∧ d.eval default = none := by
  intro unknown values c d
  have hchildren : Rearranged c (.not (.any [.oneOf .currency values, unknown])) :=
    .inNot (.anyChildren (by simp) (by simp))
  have hvalues := Rearranged.inAll [] [.not unknown] (.inNot (.oneOfEq .currency values))
  have h : Rearranged c d := hchildren.trans ((Rearranged.notAny _).trans hvalues)
  exact ⟨h, (eval_is_kleene default).2 c d h, by decide⟩

end Condition

end AccountRegistry
