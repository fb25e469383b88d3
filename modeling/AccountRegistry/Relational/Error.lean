import AccountRegistry.Store.Error

/-! # Failures of a relational store

What a connection reports, and what a store makes of it: lost connections are told apart from all
other failures.
-/

namespace AccountRegistry

inductive ConnectionError
  | poolTimedOut
  | poolClosed
  | io (reason : String)
  | protocol (reason : String)
  | rowNotFound
  /-- The database refused a statement, with a code of five characters. -/
  | refused (code reason : String)
  deriving DecidableEq, Repr

namespace ConnectionError

def message : ConnectionError → String
  | .poolTimedOut => "pool timed out while waiting for an open connection"
  | .poolClosed => "attempted to acquire a connection on a closed pool"
  | .io reason => s!"error communicating with database: {reason}"
  | .protocol reason => s!"encountered unexpected or invalid data: {reason}"
  | .rowNotFound => "no rows returned by a query that expected to return at least one row"
  | .refused _ reason => s!"error returned from database: {reason}"

/-- The code for a table that does not exist. -/
def undefinedTable : String := "42P01"

def toStore (e : ConnectionError) : StoreError :=
  match e with
  | .poolTimedOut | .poolClosed | .io _ => .connection e.message
  | .refused code _ =>
    .internal (if code = undefinedTable then s!"schema is not migrated: {e.message}" else e.message)
  | .protocol _ | .rowNotFound => .internal e.message

end ConnectionError

inductive DatabaseError
  | connection (e : ConnectionError)
  | migration (reason : String)
  | row (reason : String)
  | configuration (reason : String)
  deriving DecidableEq, Repr

namespace DatabaseError

def message : DatabaseError → String
  | .connection e => s!"Database error: {e.message}"
  | .migration reason => s!"Migration error: {reason}"
  | .row reason => s!"Invalid row: {reason}"
  | .configuration reason => s!"Configuration error: {reason}"

/-- What went wrong, followed by what lies behind it. -/
def trace (e : DatabaseError) : String :=
  match e with
  | .connection (.io reason) => s!"{e.message}: {(ConnectionError.io reason).message}: {reason}"
  | .connection c => s!"{e.message}: {c.message}"
  | e => e.message

def toStore (e : DatabaseError) : StoreError :=
  match e with
  | .connection e => e.toStore
  | e => .internal e.message

end DatabaseError

end AccountRegistry
