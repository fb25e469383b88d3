import AccountRegistry.Query.Condition
import AccountRegistry.Query.Error
import AccountRegistry.Text.LowerCase

/-! # Filter operators

An operator has a name, a kind of operand it takes, and a condition that it makes of a field and an
operand.
-/

namespace AccountRegistry

/-- The value of a filter after it has been read. -/
inductive Operand
  /-- No value. -/
  | absent
  | single (value : Datum)
  | list (values : List Datum)
  deriving DecidableEq, Repr, Inhabited

inductive Operator
  | isNull | isNotNull | eq | ne | gt | lt | ge | le | like | ilike | notIlike | isIn | notIn
  deriving DecidableEq, Repr, Inhabited

namespace Operator

def all : List Operator :=
  [.isNull, .isNotNull, .eq, .ne, .gt, .lt, .ge, .le, .like, .ilike, .notIlike, .isIn, .notIn]

def name : Operator → String
  | .isNull => "is_null"
  | .isNotNull => "is_not_null"
  | .eq => "="
  | .ne => "!="
  | .gt => ">"
  | .lt => "<"
  | .ge => ">="
  | .le => "<="
  | .like => "like"
  | .ilike => "ilike"
  | .notIlike => "not_ilike"
  | .isIn => "in"
  | .notIn => "not_in"

/-- Whether an operator looks at the property alone. -/
def isUnary : Operator → Bool
  | .isNull | .isNotNull => true
  | _ => false

/-- The operator whose name a text is in lower case. -/
def resolve (s : String) : Except QueryError Operator :=
  let lowered := Text.lower s
  match all.find? fun op => op.name == lowered with
  | some op => .ok op
  | none => .error (.unknownOperator s)

/-- Whether an operand has the form that an operator takes: tests for a missing value take any,
equality a value or none, membership a list, and the others one value. -/
def checkOperand (op : Operator) (property : String) (x : Operand) : Except QueryError Unit :=
  if op.isUnary then .ok ()
  else match op, x with
    | .eq, .absent | .ne, .absent => .ok ()
    | .isIn, .list _ | .notIn, .list _ => .ok ()
    | .isIn, _ | .notIn, _ =>
      .error (.invalidValue property s!"operator '{op.name}' expects an array value")
    | _, .single _ => .ok ()
    | _, .absent => .error (.invalidValue property s!"operator '{op.name}' requires a value")
    | _, .list _ => .error (.invalidValue property s!"operator '{op.name}' expects a single value")

/-- The comparison that an operator makes with one value. -/
def comparison? : Operator → Option Comparison
  | .eq => some .eq
  | .ne => some .ne
  | .gt => some .gt
  | .lt => some .lt
  | .ge => some .ge
  | .le => some .le
  | .like => some .like
  | .ilike => some .ilike
  | _ => none

/-- The condition that an operator puts on a field. Operands that `checkOperand` refuses give a
condition that never holds. -/
def apply (op : Operator) (field : Field) (x : Operand) : Condition :=
  match op, x with
  | .isNull, _ | .eq, .absent => .isNull field
  | .isNotNull, _ | .ne, .absent => .isNotNull field
  | .isIn, .list values => .memberOf field values
  | .notIn, .list values => .not (.memberOf field values)
  | .notIlike, .single value => .not (.compare field .ilike value)
  | op, .single value =>
    match op.comparison? with
    | some c => .compare field c value
    | none => .never
  | _, _ => .never

end Operator

end AccountRegistry
