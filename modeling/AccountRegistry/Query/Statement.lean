import AccountRegistry.Query.Filter

/-! # Queries and their statements

A query is a schema, conditions that must all hold, an order and a window of rows. It renders to SQL
in which values occur only as numbered parameters.
-/

namespace AccountRegistry

def Field.accessor : Field → String
  | .id => "a.id"
  | .kind => "a.\"type\"::text"
  | .currency => "a.currency"
  | .number => "a.account"
  | .companyId => "a.company_id::text"
  | .companyName => "c.name"
  | .archived => "a.archived"
  | .created => "a.created"
  | .modified => "a.modified"

def Comparison.sql : Comparison → String
  | .eq => "="
  | .ne => "!="
  | .gt => ">"
  | .lt => "<"
  | .ge => ">="
  | .le => "<="
  | .like => "LIKE"
  | .ilike => "ILIKE"
  | .isNull => "IS NULL"
  | .isNotNull => "IS NOT NULL"

def SortDirection.sql : SortDirection → String
  | .asc => "ASC"
  | .desc => "DESC"

/-- One clause of an order. -/
structure SortClause where
  field : Field
  direction : SortDirection
  nullsLast : Bool
  deriving DecidableEq, Repr

def SortClause.ofField (field : Field) (direction : SortDirection) : SortClause :=
  ⟨field, direction, true⟩

/-- A number of rows to skip, and how many to take at most after them. -/
structure Window where
  limit : Option UInt64
  offset : UInt64
  deriving DecidableEq, Repr, Inhabited

def Window.all : Window := ⟨none, 0⟩

structure Query where
  schema : String
  conditions : List Condition
  order : List SortClause
  window : Window

namespace Query

/-- All rows of the public schema. -/
def everything : Query := ⟨"public", [], [], .all⟩

def inSchema (q : Query) (schema : String) : Query := { q with schema }

/-- A query with one more condition. -/
def restrict (q : Query) (c : Condition) : Query := { q with conditions := q.conditions ++ [c] }

/-- A query with one more clause, which breaks the ties of the earlier ones. -/
def orderBy (q : Query) (s : SortClause) : Query := { q with order := q.order ++ [s] }

def within (q : Query) (w : Window) : Query := { q with window := w }

/-- What a row must satisfy. -/
def predicate (q : Query) : Condition := .conjunction q.conditions

end Query

/-- Restricts a query by a filter that has any nodes. -/
def Filter.apply {P : Type} [FilterProperty P] (f : Filter P) (q : Query) : Query :=
  if f.nodes.isEmpty then q else q.restrict f.compile

/-! ## Statements -/

inductive StatementError
  | identifier (reason : String)
  | complexity (reason : String)
  deriving DecidableEq, Repr

def StatementError.message : StatementError → String
  | .identifier reason => s!"Invalid identifier: {reason}"
  | .complexity reason => s!"Query too complex: {reason}"

def isIdentifierChar (c : Char) : Bool := c.isAlphanum || c == '_'

/-- A name in the quotation marks that SQL puts around identifiers. -/
def quoteIdentifier (name : String) : Except StatementError String :=
  if name.isEmpty then .error (.identifier "Empty identifier")
  else if name.toList.all isIdentifierChar then .ok ("\"" ++ name ++ "\"")
  else .error (.identifier name)

/-- SQL with the values of its parameters, the first one being number 1. -/
structure Statement where
  sql : String
  parameters : List Datum
  deriving DecidableEq, Repr

mutual

/-- The values that a condition compares with, in the order in which it mentions them. -/
def Condition.parameters : Condition → List Datum
  | .compare _ op value => if op.takesValue then [value] else []
  | .oneOf _ values => values
  | .any cs => parametersAll cs
  | .all cs => parametersAll cs
  | .not c => c.parameters
  | .always => []
  | .never => []

def Condition.parametersAll : List Condition → List Datum
  | [] => []
  | c :: cs => c.parameters ++ parametersAll cs

end

def placeholder (n : Nat) : String := s!"${n}"

/-- Texts with a separator between them. -/
def joined (sep : String) (parts : List String) : String := sep.intercalate parts

mutual

/-- The SQL of a condition whose first parameter has number `next`. -/
def Condition.sql (next : Nat) : Condition → String
  | .compare field op _ =>
    if op.takesValue then s!"({field.accessor} {op.sql} {placeholder next})"
    else s!"({field.accessor} {op.sql})"
  | .oneOf field values =>
    if values.isEmpty then "FALSE"
    else s!"({field.accessor} IN (" ++
      joined ", " ((List.range values.length).map fun i => placeholder (next + i)) ++ "))"
  | .any cs => if cs.isEmpty then "FALSE" else "(" ++ joined " OR " (sqlAll next cs) ++ ")"
  | .all cs => if cs.isEmpty then "TRUE" else "(" ++ joined " AND " (sqlAll next cs) ++ ")"
  | .not c => "(NOT " ++ c.sql next ++ ")"
  | .always => "TRUE"
  | .never => "FALSE"

def Condition.sqlAll (next : Nat) : List Condition → List String
  | [] => []
  | c :: cs => c.sql next :: sqlAll (next + c.parameters.length) cs

end

namespace Query

def tooComplex (nodes : Nat) : StatementError :=
  .complexity s!"Too many condition nodes: {nodes} (max {maxConditionNodes})"

/-- A query with at most so many nodes that it is rendered. -/
def checkSize (q : Query) : Except StatementError Unit :=
  let nodes := Condition.sizeAll q.conditions
  if nodes ≤ maxConditionNodes then .ok () else .error (tooComplex nodes)

def fromClause (q : Query) : Except StatementError String := do
  let schema ← quoteIdentifier q.schema
  return s!"{schema}.\"accounts\" AS a INNER JOIN {schema}.\"companies\" AS c " ++
    "ON c.id = a.company_id"

def whereClause (q : Query) : String :=
  if q.conditions.isEmpty then ""
  else " WHERE " ++ joined " AND " (Condition.sqlAll 1 q.conditions)

def parameters (q : Query) : List Datum := Condition.parametersAll q.conditions

end Query

def SortClause.sql (s : SortClause) : String :=
  s!"{s.field.accessor} {s.direction.sql}" ++ if s.nullsLast then " NULLS LAST" else ""

namespace Query

/-- The order asked for, then the identifier, so that no two rows tie. -/
def orderClause (q : Query) : String :=
  joined ", " (q.order.map SortClause.sql ++
    if q.order.any fun s => s.field == .id then [] else [Field.id.accessor ++ " ASC"])

def windowClause (w : Window) : String :=
  (match w.limit with
    | some n => s!" LIMIT {n.toNat}"
    | none => "") ++
  if w.offset = 0 then "" else s!" OFFSET {w.offset.toNat}"

/-- The columns of the row statement. -/
def columns : String :=
  "a.id, a.\"type\"::text AS account_type, a.currency, a.account, a.company_id, " ++
  "c.name AS company_name, a.additional_info, a.archived, a.created, a.modified"

/-- The statement for the rows of a query, ordered and windowed. -/
def rowStatement (q : Query) : Except StatementError Statement := do
  q.checkSize
  let tables ← q.fromClause
  return ⟨"SELECT " ++ columns ++ " FROM " ++ tables ++ q.whereClause ++ " ORDER BY " ++
    q.orderClause ++ windowClause q.window, q.parameters⟩

/-- The statement for the number of rows, whatever the window. -/
def countStatement (q : Query) : Except StatementError Statement := do
  q.checkSize
  let tables ← q.fromClause
  return ⟨"SELECT COUNT(*) AS total FROM " ++ tables ++ q.whereClause, q.parameters⟩

end Query

/-! ## Statements for a log -/

def Datum.shown : Datum → Except Timestamp.TextError String
  | .text s => .ok s
  | .uuid u => .ok u.text
  | .bool b => .ok (if b then "true" else "false")
  | .timestamp t => t.text
  | .null => .ok "NULL"

/-- The parameters from number `n` on, each on a line of its own. -/
def shownFrom (n : Nat) : List Datum → Except Timestamp.TextError String
  | [] => .ok ""
  | d :: ds => do
    let value ← d.shown
    let rest ← shownFrom (n + 1) ds
    return "\n  " ++ placeholder n ++ " = " ++ value ++ rest

/-- A statement and its parameters as one text. -/
def Statement.shown (s : Statement) : Except Timestamp.TextError String := do
  return s.sql ++ (← shownFrom 1 s.parameters)

end AccountRegistry
