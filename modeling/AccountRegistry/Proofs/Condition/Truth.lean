import AccountRegistry.Query.Statement
import AccountRegistry.Store.Evaluation

/-! # Truth of conditions

Conditions are false, unknown or true. Evaluation stops at the first child that decides a group; it
agrees with the denotation that combines the truth values of all children.
-/

namespace AccountRegistry

/-- One of three truth values; `none` is unknown. -/
abbrev Truth := Option Bool

namespace Truth

def not (x : Truth) : Truth := x.map (!·)

def or : Truth → Truth → Truth
  | some true, _ => some true
  | some false, y => y
  | none, some true => some true
  | none, _ => none

def and : Truth → Truth → Truth
  | some false, _ => some false
  | some true, y => y
  | none, some false => some false
  | none, _ => none

def any (xs : List Truth) : Truth := xs.foldr or (some false)

def all (xs : List Truth) : Truth := xs.foldr and (some true)

@[simp] theorem any_nil : any [] = some false := rfl

@[simp] theorem any_cons (x : Truth) (xs : List Truth) : any (x :: xs) = or x (any xs) := rfl

@[simp] theorem all_nil : all [] = some true := rfl

@[simp] theorem all_cons (x : Truth) (xs : List Truth) : all (x :: xs) = and x (all xs) := rfl

theorem not_not (x : Truth) : not (not x) = x := by
  rcases x with _ | _ | _ <;> rfl

@[simp] theorem false_or (x : Truth) : or (some false) x = x := rfl

@[simp] theorem true_or (x : Truth) : or (some true) x = some true := rfl

@[simp] theorem true_and (x : Truth) : and (some true) x = x := rfl

@[simp] theorem false_and (x : Truth) : and (some false) x = some false := rfl

@[simp] theorem or_false (x : Truth) : or x (some false) = x := by
  rcases x with _ | _ | _ <;> rfl

@[simp] theorem and_true (x : Truth) : and x (some true) = x := by
  rcases x with _ | _ | _ <;> rfl

theorem none_or_none_or (x : Truth) : or none (or none x) = or none x := by
  rcases x with _ | _ | _ <;> rfl

theorem none_and_none_and (x : Truth) : and none (and none x) = and none x := by
  rcases x with _ | _ | _ <;> rfl

theorem and_assoc (x y z : Truth) : and (and x y) z = and x (and y z) := by
  rcases x with _ | _ | _ <;> rcases y with _ | _ | _ <;> rcases z with _ | _ | _ <;> rfl

theorem all_append (xs ys : List Truth) : all (xs ++ ys) = and (all xs) (all ys) := by
  induction xs with
  | nil => rfl
  | cons x xs ih => rw [List.cons_append, all_cons, ih, all_cons, and_assoc]

theorem and_eq_true_iff {x y : Truth} : and x y = some true ↔ x = some true ∧ y = some true := by
  rcases x with _ | _ | _ <;> rcases y with _ | _ | _ <;> decide

theorem all_eq_true_iff {xs : List Truth} : all xs = some true ↔ ∀ x ∈ xs, x = some true := by
  induction xs with
  | nil => simp
  | cons x xs ih => simp [and_eq_true_iff, ih]

end Truth

namespace Condition

mutual

/-- The truth value of a condition, all of whose parts are looked at. -/
def truth (a : Account) : Condition → Truth
  | .compare field op value => op.eval (a.get field) value
  | .oneOf field values => Truth.any (values.map (Comparison.eval .eq (a.get field)))
  | .any cs => Truth.any (truths a cs)
  | .all cs => Truth.all (truths a cs)
  | .not c => Truth.not (c.truth a)
  | .always => some true
  | .never => some false

def truths (a : Account) : List Condition → List Truth
  | [] => []
  | c :: cs => c.truth a :: truths a cs

end

theorem truths_eq_map (a : Account) (cs : List Condition) : truths a cs = cs.map (truth a) := by
  induction cs with
  | nil => rfl
  | cons c cs ih => rw [truths, ih, List.map_cons]

theorem truth_any (a : Account) (cs : List Condition) :
    truth a (.any cs) = Truth.any (cs.map (truth a)) := by
  rw [truth, truths_eq_map]

theorem truth_all (a : Account) (cs : List Condition) :
    truth a (.all cs) = Truth.all (cs.map (truth a)) := by
  rw [truth, truths_eq_map]

theorem truth_disjunction (a : Account) (cs : List Condition) :
    truth a (disjunction cs) = Truth.any (cs.map (truth a)) := by
  match cs with
  | [] => rfl
  | [c] => simp [disjunction]
  | c :: d :: cs => exact truth_any a _

theorem truth_conjunction (a : Account) (cs : List Condition) :
    truth a (conjunction cs) = Truth.all (cs.map (truth a)) := by
  match cs with
  | [] => rfl
  | [c] => simp [conjunction]
  | c :: d :: cs => exact truth_all a _

theorem truth_memberOf (a : Account) (field : Field) (values : List Datum) :
    truth a (memberOf field values) =
      Truth.any (values.map (Comparison.eval .eq (a.get field))) := by
  cases values <;> rfl

/-! ## Evaluation -/

/-- What a scan of a group has seen before it met a decisive child. -/
def seen (unknown : Bool) (neutral : Bool) : Truth := if unknown then none else some neutral

theorem evalMember_eq (left : Datum) (unknown : Bool) (values : List Datum) :
    evalMember left unknown values =
      Truth.or (seen unknown false) (Truth.any (values.map (Comparison.eval .eq left))) := by
  induction values generalizing unknown with
  | nil => cases unknown <;> rfl
  | cons d ds ih =>
    rw [evalMember, List.map_cons, Truth.any_cons]
    rcases Comparison.eval .eq left d with _ | _ | _
    · refine (ih true).trans ?_
      cases unknown
      · rfl
      · exact (Truth.none_or_none_or _).symm
    · exact ih unknown
    · cases unknown <;> rfl

mutual

/-- Evaluation computes the denotation. -/
theorem eval_eq_truth (a : Account) : ∀ c : Condition, c.eval a = c.truth a
  | .compare _ _ _ => rfl
  | .oneOf _ _ => evalMember_eq _ _ _
  | .any cs => evalAny_eq a false cs
  | .all cs => evalAll_eq a false cs
  | .not c => congrArg Truth.not (eval_eq_truth a c)
  | .always => rfl
  | .never => rfl

theorem evalAny_eq (a : Account) : ∀ (unknown : Bool) (cs : List Condition),
    evalAny a unknown cs = Truth.or (seen unknown false) (Truth.any (truths a cs))
  | unknown, [] => by cases unknown <;> rfl
  | unknown, c :: cs => by
    rw [evalAny, truths, Truth.any_cons, eval_eq_truth a c]
    rcases c.truth a with _ | _ | _
    · refine (evalAny_eq a true cs).trans ?_
      cases unknown
      · rfl
      · exact (Truth.none_or_none_or _).symm
    · exact evalAny_eq a unknown cs
    · cases unknown <;> rfl

theorem evalAll_eq (a : Account) : ∀ (unknown : Bool) (cs : List Condition),
    evalAll a unknown cs = Truth.and (seen unknown true) (Truth.all (truths a cs))
  | unknown, [] => by cases unknown <;> rfl
  | unknown, c :: cs => by
    rw [evalAll, truths, Truth.all_cons, eval_eq_truth a c]
    rcases c.truth a with _ | _ | _
    · refine (evalAll_eq a true cs).trans ?_
      cases unknown
      · rfl
      · exact (Truth.none_and_none_and _).symm
    · cases unknown <;> rfl
    · exact evalAll_eq a unknown cs

end

theorem matches_iff {c : Condition} {a : Account} : c.matches a = true ↔ c.truth a = some true := by
  rw [«matches», eval_eq_truth, beq_iff_eq]

end Condition

/-! ## Queries -/

namespace Query

theorem truth_predicate (q : Query) (a : Account) :
    q.predicate.truth a = Truth.all (q.conditions.map (Condition.truth a)) :=
  Condition.truth_conjunction a _

theorem truth_restrict (q : Query) (c : Condition) (a : Account) :
    (q.restrict c).predicate.truth a = Truth.and (q.predicate.truth a) (c.truth a) := by
  rw [truth_predicate, truth_predicate, restrict, List.map_append, Truth.all_append,
    List.map_singleton, Truth.all_cons, Truth.all_nil, Truth.and_true]

end Query

end AccountRegistry
