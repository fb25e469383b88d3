import AccountRegistry.Relational.Migration
import AccountRegistry.Relational.Settings
import AccountRegistry.Store.Source

/-! # Relational stores

Accounts in a database. Queries are rendered for the schema of the store and logged before anything
is sent; a page is read with its total in one transaction, so that both come from the same rows.
-/

namespace AccountRegistry

/-- Accounts in a schema of a database. -/
structure RelationalStore where
  schema : String
  /-- Whether statements are logged with the values of their parameters. -/
  echoSql : Bool
  deriving DecidableEq, Repr

/-- The log of a program. A message that is not written is not put together either. -/
structure Log where
  /-- Messages of level info are written. -/
  info : Bool
  deriving DecidableEq, Repr

/-- A log of the level that settings have by default. -/
def Log.standard : Log := ⟨true⟩

/-- Why a read gives nothing. -/
inductive ReadFault
  /-- An error that is reported to whoever reads. -/
  | error (e : StoreError)
  /-- The program crashes, and nothing is reported. -/
  | crash
  deriving DecidableEq, Repr

namespace ReadFault

def ofStatement (e : StatementError) : ReadFault := .error (.invalidQuery e)

def ofConnection (e : ConnectionError) : ReadFault := .error e.toStore

def ofDatabase (e : DatabaseError) : ReadFault := .error e.toStore

/-- What a source gives for a fault. A source answers every read, so that a crash is an internal
error there; a program that has crashed answers nothing. -/
def toStore : ReadFault → StoreError
  | .error e => e
  | .crash => .internal "crash"

end ReadFault

namespace RelationalStore

/-- Opens a connection, which looks up tables in a schema. -/
def openConnection (settings : DatabaseSettings) (server : Server) :
    Session DatabaseError Unit := do
  let search ← Session.ofExcept ((searchPathStatement settings.schema).mapError fun e =>
    .configuration e.message)
  Session.ofExcept (server.connect.mapError .connection)
  Session.send server .connection (.execute search)

/-- Connects and migrates, if that is set. -/
def connect (settings : DatabaseSettings) (server : Server) :
    Session DatabaseError RelationalStore := do
  openConnection settings server
  if settings.runMigrations then Migration.runAll server Migration.all
  return ⟨settings.schema, settings.echoSql⟩

/-- A query on the tables of the store, whatever schema it names. -/
def qualify (s : RelationalStore) (q : Query) : Query := q.inSchema s.schema

def render (r : Except StatementError Statement) : Session ReadFault Statement :=
  Session.ofExcept (r.mapError .ofStatement)

/-- Logs a statement, with its values if the store echoes them and the log has such messages. Values
are logged as texts, and one that has none crashes the program. Without its values a statement can
always be logged. -/
def trace (s : RelationalStore) (log : Log) (statement : Statement) : Session ReadFault Unit :=
  if s.echoSql && log.info then
    Session.ofExcept ((statement.shown.mapError fun _ => .crash).map fun _ => ())
  else pure ()

def ask {α : Type} (server : Server) (c : Command α) : Session ReadFault α :=
  Session.send server .ofConnection c

/-- The account of a row. An instant behind the last one of timestamps, in a leap second at the end
of the year 9999, crashes the program. -/
def readRow (row : AccountRow) : Except ReadFault Account := do
  let a ← row.toAccount.mapError .ofDatabase
  if Timestamp.InRange a.created.nanos ∧ Timestamp.InRange a.modified.nanos then return a
  else throw .crash

def readRows (rows : List AccountRow) : Session ReadFault (List Account) :=
  Session.ofExcept (rows.mapM readRow)

/-- A number of rows as a database counts them; negative ones count as none. -/
def totalOf (n : Int) : UInt64 := .ofNat n.toNat

def count (s : RelationalStore) (log : Log) (server : Server) (q : Query) :
    Session ReadFault UInt64 := do
  let statement ← render (s.qualify q).countStatement
  s.trace log statement
  return totalOf (← ask server (.total statement))

def fetch (s : RelationalStore) (log : Log) (server : Server) (q : Query) :
    Session ReadFault (List Account) := do
  let statement ← render (s.qualify q).rowStatement
  s.trace log statement
  readRows (← ask server (.rows statement))

/-- Reads a page and its total from the same rows. -/
def transact (server : Server) (count page : Statement) : Session ReadFault PageSlice := do
  ask server .begin
  ask server .isolate
  let total ← ask server (.total count)
  let rows ← ask server (.rows page)
  ask server .commit
  return ⟨totalOf total, ← readRows rows⟩

def fetchPage (s : RelationalStore) (log : Log) (server : Server) (q : Query) (w : Window) :
    Session ReadFault PageSlice := do
  let count ← render (s.qualify q).countStatement
  let page ← render ((s.qualify q).within w).rowStatement
  s.trace log count
  s.trace log page
  transact server count page

def backendName : String := "postgres"

/-- The store as a source, every read on a connection of its own. -/
def source (s : RelationalStore) (log : Log) (server : Server) : AccountSource where
  backendName := backendName
  fetch q := (s.fetch log server q).start.1.mapError ReadFault.toStore
  fetchPage q w := (s.fetchPage log server q w).start.1.mapError ReadFault.toStore

end RelationalStore

end AccountRegistry
