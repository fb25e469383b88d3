import AccountRegistry.Query.Statement
import AccountRegistry.Store.Evaluation

/-! # The order of rows

Rows compare by the clauses of an order, the first clause that tells them apart deciding.
-/

namespace AccountRegistry

/-- How one clause orders two values. -/
def SortClause.order (s : SortClause) (left right : Datum) : Ordering :=
  match left == .null, right == .null with
  | true, true => .eq
  | true, false => if s.nullsLast then .gt else .lt
  | false, true => if s.nullsLast then .lt else .gt
  | false, false =>
    let o := (left.order? right).getD .eq
    match s.direction with
    | .asc => o
    | .desc => o.swap

/-- How some clauses order two rows. -/
def compareRows (a b : Account) : List SortClause → Ordering
  | [] => .eq
  | s :: rest =>
    match s.order (a.get s.field) (b.get s.field) with
    | .eq => compareRows a b rest
    | o => o

/-- Rows in ascending order of their identifiers. -/
def sortById (rows : List Account) : List Account :=
  rows.mergeSort fun a b => a.id.compare b.id != .gt

/-- Rows in the order of some clauses; rows that tie stay as they were. -/
def sortByClauses (clauses : List SortClause) (rows : List Account) : List Account :=
  rows.mergeSort fun a b => compareRows a b clauses != .gt

end AccountRegistry
