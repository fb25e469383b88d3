import AccountRegistry.Query.Condition
import AccountRegistry.Store.Like
import AccountRegistry.Text.LowerCase

/-! # Evaluation of conditions

Conditions have three truth values: a comparison of values of different kinds is unknown, and an
unknown condition does not match.
-/

namespace AccountRegistry

/-- The order of two values of the same kind. -/
def Datum.order? : Datum → Datum → Option Ordering
  | .text a, .text b => some (compare a b)
  | .uuid a, .uuid b => some (a.compare b)
  | .bool a, .bool b => some (compare a b)
  | .timestamp a, .timestamp b => some (a.compare b)
  | _, _ => none

/-- The truth of a comparison between two values in a known order; other comparisons are unknown. -/
def Comparison.ofOrder (op : Comparison) (o : Ordering) : Option Bool :=
  match op with
  | .eq => some (o == .eq)
  | .ne => some (o != .eq)
  | .gt => some (o == .gt)
  | .lt => some (o == .lt)
  | .ge => some (o != .lt)
  | .le => some (o != .gt)
  | .like | .ilike | .isNull | .isNotNull => none

def Comparison.eval (op : Comparison) (left right : Datum) : Option Bool :=
  match op with
  | .isNull => some (left == .null)
  | .isNotNull => some (left != .null)
  | .like =>
    match left, right with
    | .text s, .text pattern => some (likeText pattern s)
    | _, _ => none
  | .ilike =>
    match left, right with
    | .text s, .text pattern => some (likeText (Text.lower pattern) (Text.lower s))
    | _, _ => none
  | op =>
    match left.order? right with
    | some o => op.ofOrder o
    | none => none

/-- Whether a value equals one of some candidates; `unknown` when an earlier comparison was. -/
def evalMember (left : Datum) (unknown : Bool) : List Datum → Option Bool
  | [] => if unknown then none else some false
  | d :: ds =>
    match Comparison.eval .eq left d with
    | some true => some true
    | some false => evalMember left unknown ds
    | none => evalMember left true ds

namespace Condition

mutual

def eval (a : Account) : Condition → Option Bool
  | .compare field op value => op.eval (a.get field) value
  | .oneOf field values => evalMember (a.get field) false values
  | .any cs => evalAny a false cs
  | .all cs => evalAll a false cs
  | .not c => (c.eval a).map (!·)
  | .always => some true
  | .never => some false

/-- True at the first true condition; `unknown` when an earlier one was. -/
def evalAny (a : Account) (unknown : Bool) : List Condition → Option Bool
  | [] => if unknown then none else some false
  | c :: cs =>
    match c.eval a with
    | some true => some true
    | some false => evalAny a unknown cs
    | none => evalAny a true cs

/-- False at the first false condition; `unknown` when an earlier one was. -/
def evalAll (a : Account) (unknown : Bool) : List Condition → Option Bool
  | [] => if unknown then none else some true
  | c :: cs =>
    match c.eval a with
    | some false => some false
    | some true => evalAll a unknown cs
    | none => evalAll a true cs

end

/-- Only a true condition matches. -/
def «matches» (c : Condition) (a : Account) : Bool := c.eval a == some true

end Condition

end AccountRegistry
