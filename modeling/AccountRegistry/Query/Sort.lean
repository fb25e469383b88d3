import AccountRegistry.Query.Statement

/-! # Sorts

A sort is JSON: an object names a property and a direction, either of which may be missing, and
lists flatten. The first expression counts most.
-/

namespace AccountRegistry

structure SortExpression (P : Type) where
  property : P
  direction : SortDirection
  deriving Inhabited

namespace SortExpression

variable {P : Type} [SortProperty P]

def compile (e : SortExpression P) : List SortClause :=
  (SortProperty.fields e.property).toList.map fun f => .ofField f e.direction

/-- An expression; a missing property is the default one, a missing direction descends. -/
def ofMembers (ms : List (String × Json.Value)) : Except QueryError (SortExpression P) := do
  let p ← match Json.member? "property" ms with
    | some (.string name) => SortProperty.resolve name
    | none | some .null => .ok SortProperty.default.1
    | some _ => .error (.malformed "sort 'property' must be a string")
  let d ← match Json.member? "direction" ms with
    | some (.string s) => SortDirection.read s
    | none | some .null => .ok .desc
    | some _ => .error (.malformed "sort 'direction' must be a string")
  return ⟨p, d⟩

mutual

def ofValue : Json.Value → Except QueryError (List (SortExpression P))
  | .array items => ofItems items
  | .object ms => (ofMembers ms).map fun e => [e]
  | v => .error (.malformed s!"sort must be an object or an array, got {v.print}")

def ofItems : List Json.Value → Except QueryError (List (SortExpression P))
  | [] => .ok []
  | v :: vs => do
    let es ← ofValue v
    let rest ← ofItems vs
    return es ++ rest

end

end SortExpression

/-- Sort expressions, the weightiest first. -/
abbrev SortOrder (P : Type) := List (SortExpression P)

namespace SortOrder

variable {P : Type} [SortProperty P]

/-- The order of a listing that asks for none. -/
def standard : SortOrder P :=
  let d : P × SortDirection := SortProperty.default
  [⟨d.1, d.2⟩]

def compile (s : SortOrder P) : List SortClause := s.flatMap SortExpression.compile

/-- Adds the clauses of a sort to a query. -/
def apply (s : SortOrder P) (q : Query) : Query := s.compile.foldl Query.orderBy q

/-- The name of the parameter. -/
def param : String := "sort"

/-- The sort of a request. -/
def read : Option String → Except ParamError (SortOrder P)
  | none => .ok standard
  | some raw => forParam param do SortExpression.ofValue (← decodeParam raw)

end SortOrder

end AccountRegistry
