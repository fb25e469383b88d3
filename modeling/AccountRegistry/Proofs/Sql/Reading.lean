import AccountRegistry.Proofs.Condition.Truth
import AccountRegistry.Proofs.Sql.Token
import AccountRegistry.Proofs.Store.RowOrder

/-! # Reading SQL

The text of a statement is read by the rules of SQL: parentheses first, then `OR` between operands
of `AND`, then `AND` between operands of `NOT`. What is read selects rows from a table, and where
its order leaves a choice, more than one list of them.
-/

namespace AccountRegistry.Sql

/-! ## Items -/

/-- A token outside parentheses, or what a pair of parentheses encloses. -/
inductive Item
  | token (t : Token)
  | condition (c : Condition)
  | values (ds : List Datum)

def Item.is (t : Token) : Item → Bool
  | .token u => u == t
  | _ => false

/-- The condition that an item is by itself. -/
def Item.operand? : Item → Option Condition
  | .token t =>
    if t = .word "TRUE" then some .always else if t = .word "FALSE" then some .never else none
  | .condition c => some c
  | .values _ => none

def Item.startsClause (i : Item) : Bool :=
  i.is (.word "ORDER") || i.is (.word "LIMIT") || i.is (.word "OFFSET")

/-- Reads what stands between separators. -/
def readSeparated {α : Type} (sep : Token) (read : List Item → Option α) (items : List Item) :
    Option (List α) :=
  (items.splitOnP (·.is sep)).mapM read

/-! ## Columns -/

/-- A column of a table, cast to a type or left as it is. -/
structure Column where
  table : String
  name : String
  type : Option String
  deriving DecidableEq, Repr

/-- The column that holds a field. -/
def Column.ofField : Field → Column
  | .id => ⟨"a", "id", none⟩
  | .kind => ⟨"a", "type", some "text"⟩
  | .currency => ⟨"a", "currency", none⟩
  | .number => ⟨"a", "account", none⟩
  | .companyId => ⟨"a", "company_id", some "text"⟩
  | .companyName => ⟨"c", "name", none⟩
  | .archived => ⟨"a", "archived", none⟩
  | .created => ⟨"a", "created", none⟩
  | .modified => ⟨"a", "modified", none⟩

def Token.name? : Token → Option String
  | .word s => some s
  | .quoted s => some s
  | _ => none

def readCast : List Item → Option String × List Item
  | .token (.sign "::") :: .token (.word type) :: rest => (some type, rest)
  | items => (none, items)

def readColumn : List Item → Option (Column × List Item)
  | .token (.word table) :: .token (.sign ".") :: .token t :: rest =>
    t.name?.map fun name => (⟨table, name, (readCast rest).1⟩, (readCast rest).2)
  | _ => none

def readField (items : List Item) : Option (Field × List Item) := do
  let (column, rest) ← readColumn items
  let field ← Field.all.find? fun f => Column.ofField f == column
  return (field, rest)

/-! ## Conditions -/

section

variable (params : List Datum)

/-- The value of a parameter; the first one has number 1. -/
def value? : Nat → Option Datum
  | 0 => none
  | k + 1 => params[k]?

def readValue : List Item → Option Datum
  | [.token (.parameter k)] => value? params k
  | _ => none

def readComparison : Token → Option Comparison
  | .sign "=" => some .eq
  | .sign "!=" => some .ne
  | .sign ">" => some .gt
  | .sign "<" => some .lt
  | .sign ">=" => some .ge
  | .sign "<=" => some .le
  | .word "LIKE" => some .like
  | .word "ILIKE" => some .ilike
  | _ => none

/-- Reads what follows the field of a test. -/
def readTest (field : Field) : List Item → Option Condition
  | [.token (.word "IS"), .token (.word "NULL")] => some (.isNull field)
  | [.token (.word "IS"), .token (.word "NOT"), .token (.word "NULL")] => some (.isNotNull field)
  | [.token (.word "IN"), .values ds] => some (.memberOf field ds)
  | [.token t, i] => do
    let op ← readComparison t
    let value ← readValue params [i]
    return .compare field op value
  | _ => none

def readPrimary : List Item → Option Condition
  | [i] => i.operand?
  | items => do
    let (field, rest) ← readField items
    readTest params field rest

def readNot : List Item → Option Condition
  | [] => none
  | i :: rest =>
    if i.is (.word "NOT") then (readNot rest).map .not else readPrimary params (i :: rest)

def readAnd (items : List Item) : Option Condition :=
  (readSeparated (.word "AND") (readNot params) items).map .conjunction

def readOr (items : List Item) : Option Condition :=
  (readSeparated (.word "OR") (readAnd params) items).map .disjunction

/-- What a pair of parentheses encloses is a condition or a list of values. -/
def enclosed (items : List Item) : Option Item :=
  ((readOr params items).map .condition).or
    ((readSeparated (.sign ",") (readValue params) items).map .values)

/-- Items read, those before each open parenthesis apart. -/
abbrev Nesting := List (List Item) × List Item

def nestToken : Nesting → Token → Option Nesting
  | (outer, items), .opening => some (items :: outer, [])
  | ([], _), .closing => none
  | (before :: outer, items), .closing =>
    (enclosed params items).map fun i => (outer, before ++ [i])
  | (outer, items), t => some (outer, items ++ [.token t])

/-- The items of some tokens, each pair of parentheses being one. -/
def nest (ts : List Token) : Option (List Item) :=
  match ts.foldlM (nestToken params) ([], []) with
  | some ([], items) => some items
  | _ => none

end

-- without parentheses the precedence of the connectives decides
example : ((tokens? "NOT TRUE AND FALSE OR TRUE").bind (nest [])).bind (readOr []) =
    some (.any [.all [.not .always, .never], .always]) := rfl

/-! ## Statements -/

/-- What a statement gives for the rows it selects. -/
inductive Head
  | rows (columns : List (Column × Option String))
  | total
  deriving DecidableEq, Repr

structure Selection where
  head : Head
  schema : String
  condition : Condition
  order : List SortClause
  limit : Option Nat
  offset : Nat

/-- Reads a column and the name that it is given. -/
def readOutput (items : List Item) : Option (Column × Option String) := do
  match ← readColumn items with
  | (column, []) => some (column, none)
  | (column, [.token (.word "AS"), .token (.word name)]) => some (column, some name)
  | _ => none

def readHead : List Token → Option (Head × List Token)
  | .word "SELECT" :: .word "COUNT" :: .opening :: .sign "*" :: .closing :: .word "AS" ::
      .word "total" :: .word "FROM" :: rest => some (.total, rest)
  | .word "SELECT" :: ts => do
    let (outputs, rest) := ts.span (· != .word "FROM")
    let columns ← readSeparated (.sign ",") readOutput (outputs.map .token)
    return (.rows columns, rest.tail)
  | _ => none

/-- The tokens behind a schema that name its tables and join each account with its company. -/
def joinTokens (schema : String) : List Token :=
  [.sign ".", .quoted "accounts", .word "AS", .word "a", .word "INNER", .word "JOIN",
    .quoted schema, .sign ".", .quoted "companies", .word "AS", .word "c", .word "ON",
    .word "c", .sign ".", .word "id", .sign "=", .word "a", .sign ".", .word "company_id"]

def readTables : List Token → Option (String × List Token)
  | .quoted schema :: ts =>
    if joinTokens schema <+: ts then some (schema, ts.drop (joinTokens schema).length) else none
  | _ => none

def readWhere (params : List Datum) : List Item → Option (Condition × List Item)
  | .token (.word "WHERE") :: items =>
    let (body, rest) := items.span (!·.startsClause)
    (readOr params body).map fun c => (c, rest)
  | items => some (.always, items)

def readDirection : Token → Option SortDirection
  | .word "ASC" => some .asc
  | .word "DESC" => some .desc
  | _ => none

/-- Reads a direction and whether null values stand last; if the text does not say so, they do
unless the direction is descending. -/
def readPlacing : List Item → Option (SortDirection × Bool)
  | [.token t] => (readDirection t).map fun d => (d, d = .asc)
  | [.token t, .token (.word "NULLS"), .token (.word "LAST")] =>
    (readDirection t).map fun d => (d, true)
  | [.token t, .token (.word "NULLS"), .token (.word "FIRST")] =>
    (readDirection t).map fun d => (d, false)
  | _ => none

def readSortClause (items : List Item) : Option SortClause := do
  let (field, rest) ← readField items
  let (direction, nullsLast) ← readPlacing rest
  return ⟨field, direction, nullsLast⟩

def readOrder : List Item → Option (List SortClause × List Item)
  | .token (.word "ORDER") :: .token (.word "BY") :: items =>
    let (body, rest) := items.span (!·.startsClause)
    (readSeparated (.sign ",") readSortClause body).map fun order => (order, rest)
  | items => some ([], items)

def readLimit : List Item → Option Nat × List Item
  | .token (.word "LIMIT") :: .token (.number n) :: rest => (some n, rest)
  | items => (none, items)

def readOffset : List Item → Nat × List Item
  | .token (.word "OFFSET") :: .token (.number n) :: rest => (n, rest)
  | items => (0, items)

/-- Reads a statement, all of it. -/
def read (st : Statement) : Option Selection := do
  let ts ← tokens? st.sql
  let (head, ts) ← readHead ts
  let (schema, ts) ← readTables ts
  let items ← nest st.parameters ts
  let (condition, items) ← readWhere st.parameters items
  let (order, items) ← readOrder items
  let (limit, items) := readLimit items
  let (offset, items) := readOffset items
  if items.isEmpty then some ⟨head, schema, condition, order, limit, offset⟩ else none

/-! ## Selected rows -/

/-- The order of some clauses, in which an earlier clause goes before a later one. -/
def lexicographic (clauses : List SortClause) (a b : Account) : Ordering :=
  (clauses.map fun s => s.compare a b).foldr Ordering.then .eq

namespace Selection

variable (x : Selection) (table : List Account)

/-- The rows for which the condition is true. -/
def chosen : List Account := table.filter fun a => x.condition.truth a = some true

/-- The rows that are left of a list when the first ones are skipped and then no more are taken than
the limit. -/
def shown (rows : List Account) : List Account :=
  match x.limit with
  | some n => (rows.drop x.offset).take n
  | none => rows.drop x.offset

/-- The list is one that the statement may give for a table. -/
def Yields (out : List Account) : Prop :=
  x.head ≠ .total ∧ ∃ rows, rows.Perm (x.chosen table) ∧
    rows.Pairwise (fun a b => lexicographic x.order a b ≠ .gt) ∧ out = x.shown rows

/-- The number is the one that the statement gives for a table, as its only row. -/
def Counts (n : Nat) : Prop :=
  x.head = .total ∧ x.limit ≠ some 0 ∧ x.offset = 0 ∧ n = (x.chosen table).length

end Selection

end AccountRegistry.Sql
