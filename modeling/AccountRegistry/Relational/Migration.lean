import AccountRegistry.Relational.Session

/-! # Migrations

Scripts that bring the tables of a database up to date, the oldest first. Each one runs in a
transaction of its own.
-/

namespace AccountRegistry

structure Migration where
  version : Nat
  description : String
  sql : String
  deriving DecidableEq, Repr

namespace Migration

/-- Companies and accounts, with what the values of their columns must satisfy. -/
def accountsSchema : List String :=
  ["-- Companies and their bank accounts.",
   "",
   "CREATE TABLE IF NOT EXISTS companies (",
   "    id UUID PRIMARY KEY,",
   "    name TEXT NOT NULL,",
   "    created TIMESTAMPTZ NOT NULL DEFAULT now(),",
   "    modified TIMESTAMPTZ NOT NULL DEFAULT now()",
   ");",
   "",
   "DO $$",
   "BEGIN",
   "    CREATE TYPE account_type AS ENUM (",
   "        'account-type-1',",
   "        'account-type-2',",
   "        'account-type-3',",
   "        'account-type-4'",
   "    );",
   "EXCEPTION",
   "    WHEN duplicate_object THEN NULL;",
   "END",
   "$$;",
   "",
   "CREATE TABLE IF NOT EXISTS accounts (",
   "    id UUID PRIMARY KEY,",
   "    \"type\" account_type NOT NULL,",
   "    currency VARCHAR(3) NOT NULL CHECK (currency ~ '^[0-9]\x7b3\x7d$'),",
   "    account VARCHAR(34) NOT NULL UNIQUE CHECK (char_length(account) >= 8),",
   "    company_id UUID NOT NULL REFERENCES companies (id),",
   "    additional_info JSONB,",
   "    archived BOOLEAN NOT NULL DEFAULT false,",
   "    created TIMESTAMPTZ NOT NULL DEFAULT now(),",
   "    modified TIMESTAMPTZ NOT NULL DEFAULT now()",
   ");",
   "",
   "CREATE INDEX IF NOT EXISTS accounts_company_id_idx ON accounts (company_id);",
   "CREATE INDEX IF NOT EXISTS accounts_modified_idx ON accounts (modified DESC);",
   "CREATE INDEX IF NOT EXISTS accounts_active_idx ON accounts (archived) WHERE archived = false;"]

def all : List Migration :=
  [⟨20250301000001, "accounts_schema", String.join (accountsSchema.map (· ++ "\n"))⟩]

/-- Blames a failure on the migration that was being run. -/
def blame (m : Migration) (e : ConnectionError) : DatabaseError :=
  .migration s!"Migration failed: while executing migration {m.version}: {e.message}"

def run (server : Server) (m : Migration) : Session DatabaseError Unit := do
  Session.send server m.blame .begin
  Session.send server m.blame (.execute m.sql)
  Session.send server m.blame .commit

def runAll (server : Server) : List Migration → Session DatabaseError Unit
  | [] => pure ()
  | m :: ms => do
    m.run server
    runAll server ms

end Migration

end AccountRegistry
