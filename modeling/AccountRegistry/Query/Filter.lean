import AccountRegistry.Json.Printer
import AccountRegistry.Query.Param
import AccountRegistry.Query.Property

/-! # Filters

A filter is JSON: an object is a criterion or a group of further filters, and lists flatten into the
group around them. It compiles to one condition, the conjunction of its nodes.
-/

namespace AccountRegistry

inductive GroupKind | or | and | not
  deriving DecidableEq, Repr, Inhabited

/-- The key under which an object holds a group. -/
def GroupKind.key : GroupKind → String
  | .or => "or"
  | .and => "and"
  | .not => "not"

/-- A property, an operator and a value that it takes. -/
structure Criterion (P : Type) where
  property : P
  operator : Operator
  operand : Operand
  deriving Inhabited

inductive FilterNode (P : Type)
  | leaf (c : Criterion P)
  | group (kind : GroupKind) (children : List (FilterNode P))

section

variable {P : Type} [FilterProperty P]

/-- A criterion holds when it holds for some field of its property. -/
def Criterion.compile (c : Criterion P) : Condition :=
  .disjunction ((FilterProperty.fields c.property).toList.map fun f => c.operator.apply f c.operand)

def GroupKind.combine : GroupKind → List Condition → Condition
  | .or, cs => .disjunction cs
  | .and, cs => .conjunction cs
  | .not, cs => .not (.conjunction cs)

mutual

def FilterNode.compile : FilterNode P → Condition
  | .leaf c => c.compile
  | .group kind children => kind.combine (compileAll children)

def FilterNode.compileAll : List (FilterNode P) → List Condition
  | [] => []
  | n :: ns => n.compile :: compileAll ns

end

/-- The condition of a list of nodes. -/
def compileNodes (ns : List (FilterNode P)) : Condition := .conjunction (FilterNode.compileAll ns)

/-! ## Reading -/

def notAString (p : P) (v : Json.Value) : QueryError :=
  .invalidValue (FilterProperty.name p) s!"expected a string, got {v.print}"

def coerceItem (p : P) : Json.Value → Except QueryError Datum
  | .string s => FilterProperty.coerce p s
  | v => .error (notAString p v)

def coerceOperand (p : P) : Option Json.Value → Except QueryError Operand
  | none | some .null => .ok .absent
  | some (.string s) => (FilterProperty.coerce p s).map .single
  | some (.array items) => (items.mapM (coerceItem p)).map .list
  | some v => .error (notAString p v)

def Criterion.make (p : P) (op : Operator) (v : Option Json.Value) :
    Except QueryError (Criterion P) := do
  let x ← coerceOperand p v
  op.checkOperand (FilterProperty.name p) x
  return ⟨p, op, x⟩

/-- A member that must be a text. -/
def requiredText (key : String) (ms : List (String × Json.Value)) : Except QueryError String :=
  match Json.member? key ms with
  | some (.string s) => .ok s
  | some _ => .error (.malformed s!"'{key}' must be a string")
  | none => .error (.malformed s!"filter expression requires '{key}'")

def Criterion.ofMembers (ms : List (String × Json.Value)) : Except QueryError (Criterion P) := do
  let p ← FilterProperty.resolve (← requiredText "property" ms)
  let op ← Operator.resolve (← requiredText "operator" ms)
  Criterion.make p op (Json.member? "value" ms)

mutual

/-- The nodes of a filter. An object with several group keys is the group of the first of `or`,
`and` and `not`. -/
def FilterNode.ofValue : Json.Value → Except QueryError (List (FilterNode P))
  | .array items => ofItems items
  | .object ms =>
    match underKey GroupKind.or.key ms with
    | some r => r.map fun ns => [.group .or ns]
    | none =>
      match underKey GroupKind.and.key ms with
      | some r => r.map fun ns => [.group .and ns]
      | none =>
        match underKey GroupKind.not.key ms with
        | some r => r.map fun ns => [.group .not ns]
        | none => (Criterion.ofMembers ms).map fun c => [.leaf c]
  | v => .error (.malformed s!"filter must be an object or an array, got {v.print}")

/-- The nodes of the items of a list, one after the other. -/
def FilterNode.ofItems : List Json.Value → Except QueryError (List (FilterNode P))
  | [] => .ok []
  | v :: vs => do
    let ns ← ofValue v
    let ms ← ofItems vs
    return ns ++ ms

/-- The nodes of the filter under a key, if the key is there. -/
def FilterNode.underKey (key : String) :
    List (String × Json.Value) → Option (Except QueryError (List (FilterNode P)))
  | [] => none
  | (k, v) :: rest => if k = key then some (ofValue v) else underKey key rest

end

end

/-- The most nodes that the condition of one query may have. -/
def maxConditionNodes : Nat := 256

/-- The most nodes of a filter; the rest is left for the conditions that a listing adds. -/
def maxFilterNodes : Nat := maxConditionNodes - 16

/-- A filter of bounded size. -/
structure Filter (P : Type) [FilterProperty P] where
  nodes : List (FilterNode P)
  bounded : (compileNodes nodes).size ≤ maxFilterNodes

namespace Filter

variable {P : Type} [FilterProperty P]

/-- No restriction. -/
def none : Filter P := ⟨[], Nat.le_of_ble_eq_true rfl⟩

def compile (f : Filter P) : Condition := compileNodes f.nodes

def ofNodes (ns : List (FilterNode P)) : Except QueryError (Filter P) :=
  if h : (compileNodes ns).size ≤ maxFilterNodes then .ok ⟨ns, h⟩
  else .error (.outOfRange
    s!"filter has {(compileNodes ns).size} conditions (max {maxFilterNodes})")

def ofValue (v : Json.Value) : Except QueryError (Filter P) := do
  ofNodes (← FilterNode.ofValue v)

/-- The name of the parameter. -/
def param : String := "filter"

/-- The filter of a request; a missing parameter restricts nothing. -/
def read : Option String → Except ParamError (Filter P)
  | .none => .ok none
  | some raw => forParam param do ofValue (← decodeParam raw)

end Filter

end AccountRegistry
