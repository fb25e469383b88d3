import AccountRegistry.Relational.Row

/-! # Sessions

What a store does with a connection: commands in order, each sent once the one before has succeeded.
A server may answer every command as it likes, given all it was sent before.
-/

namespace AccountRegistry

/-- A command, with the type of what a server replies to it. -/
inductive Command : Type → Type
  | execute (sql : String) : Command Unit
  /-- A statement that gives one number. -/
  | total (s : Statement) : Command Int
  | rows (s : Statement) : Command (List AccountRow)

/-- A command as it reaches the server. -/
structure Sent where
  sql : String
  parameters : List BoundValue
  deriving DecidableEq, Repr

def Sent.ofStatement (s : Statement) : Sent := ⟨s.sql, s.parameters.map Datum.bound⟩

def Command.sent : {α : Type} → Command α → Sent
  | _, .execute sql => ⟨sql, []⟩
  | _, .total s => .ofStatement s
  | _, .rows s => .ofStatement s

/-- A database server: whether it can be reached, and its replies. -/
structure Server where
  connect : Except ConnectionError Unit
  reply : {α : Type} → (before : List Sent) → Command α → Except ConnectionError α

/-- An exchange with a server: all that was sent, and the result. -/
abbrev Session (ε α : Type) : Type := ExceptT ε (StateM (List Sent)) α

namespace Session

variable {ε α : Type}

def ofExcept (r : Except ε α) : Session ε α := ExceptT.mk (pure r)

/-- Sends a command; a command that fails has been sent too. -/
def send (server : Server) (blame : ConnectionError → ε) (c : Command α) : Session ε α := do
  let before ← get
  set (before ++ [c.sent])
  ofExcept ((server.reply before c).mapError blame)

/-- The result of a session on a new connection, with all that it sent. -/
def start (s : Session ε α) : Except ε α × List Sent := s.run.run []

end Session

/-- Begins a transaction. -/
def Command.begin : Command Unit := .execute "BEGIN"

def Command.commit : Command Unit := .execute "COMMIT"

/-- Makes all reads of a transaction see the same rows. -/
def Command.isolate : Command Unit :=
  .execute "SET TRANSACTION ISOLATION LEVEL REPEATABLE READ, READ ONLY"

end AccountRegistry
