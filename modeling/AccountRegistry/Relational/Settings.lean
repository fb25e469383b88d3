import AccountRegistry.Query.Statement
import AccountRegistry.Relational.ConnectionText

/-! # Settings of a relational store

Where the database is, how many connections are kept open, and for how long.
-/

namespace AccountRegistry

structure DatabaseSettings where
  url : String
  poolSize : UInt32
  connectTimeoutMs : UInt64
  idleTimeoutMs : Option UInt64
  schema : String
  runMigrations : Bool
  echoSql : Bool
  deriving DecidableEq, Repr

/-- Connections that nobody uses are closed after five minutes. -/
def defaultIdleTimeoutMs : UInt64 := 300000

namespace DatabaseSettings

/-- A database on this machine. -/
def standard : DatabaseSettings :=
  ⟨"postgres://localhost/accounts", 10, 5000, some defaultIdleTimeoutMs, "public", true, false⟩

def shape : Shape DatabaseSettings :=
  Shape.mapTo
    (.record "PostgresConfig" <|
      .default "url" .text standard.url <|
      .default "pool_size" .unsigned32 standard.poolSize.toNat <|
      .default "connect_timeout_ms" .unsigned64 standard.connectTimeoutMs.toNat <|
      .default "idle_timeout_ms" (.option .unsigned64) (standard.idleTimeoutMs.map UInt64.toNat) <|
      .default "schema" .text standard.schema <|
      .default "run_migrations" .bool standard.runMigrations <|
      .default "echo_sql" .bool standard.echoSql .nil)
    (fun (url, poolSize, connect, idle, schema, migrate, echo, ()) =>
      ⟨url, .ofNat poolSize, .ofNat connect, idle.map .ofNat, schema, migrate, echo⟩)
    (fun s => (s.url, s.poolSize.toNat, s.connectTimeoutMs.toNat, s.idleTimeoutMs.map UInt64.toNat,
      s.schema, s.runMigrations, s.echoSql, ()))

end DatabaseSettings

/-- The limits of a pool of connections. -/
structure PoolLimits where
  connections : UInt32
  acquireMs : UInt64
  idleMs : Option UInt64
  deriving DecidableEq, Repr

/-- A pool has at least one connection. -/
def DatabaseSettings.poolLimits (s : DatabaseSettings) : PoolLimits :=
  ⟨max s.poolSize 1, s.connectTimeoutMs, s.idleTimeoutMs⟩

/-- The statement that makes a connection look up tables in a schema first. -/
def searchPathStatement (schema : String) : Except StatementError String := do
  return s!"SET search_path TO {← quoteIdentifier schema}, public"

end AccountRegistry
