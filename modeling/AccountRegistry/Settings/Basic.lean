import AccountRegistry.Net.Address
import AccountRegistry.Query.Page
import AccountRegistry.Relational.Settings

/-! # Settings

Where the service listens, where its accounts are, how long its pages are and what it logs. Every
setting has a value for when it is left out.
-/

namespace AccountRegistry

structure ServerSettings where
  host : String
  port : UInt16
  /-- What the paths of accounts start with. -/
  apiPrefix : String
  bodyLimit : UInt64
  /-- The origins whose pages may read responses; none for all. -/
  corsOrigins : List String
  deriving DecidableEq, Repr

inductive Backend | postgres | memory
  deriving DecidableEq, Repr, Inhabited

def Backend.name : Backend → String
  | .postgres => "postgres"
  | .memory => "memory"

/-- How to reach a database: by a connection text, or by its parts. -/
structure DatabaseAccess where
  url : Option String
  host : String
  port : UInt16
  user : String
  password : Option String
  database : String
  schema : String
  poolSize : UInt32
  connectTimeoutMs : UInt64
  idleTimeoutMs : Option UInt64
  runMigrations : Bool
  echoSql : Bool
  deriving DecidableEq, Repr

structure StorageSettings where
  backend : Backend
  database : DatabaseAccess
  /-- The file whose accounts a store in memory starts with. -/
  seedFile : Option String
  deriving DecidableEq, Repr

structure PageSettings where
  defaultSize : UInt32
  maxSize : UInt32
  overflow : PageOverflow
  deriving DecidableEq, Repr

structure Settings where
  server : ServerSettings
  storage : StorageSettings
  pages : PageSettings
  logLevel : String
  deriving DecidableEq, Repr

/-! ## Values for when nothing is set -/

def ServerSettings.standard : ServerSettings := ⟨"0.0.0.0", 8080, "/v1", 1024 * 1024, []⟩

def DatabaseAccess.standard : DatabaseAccess where
  url := none
  host := "localhost"
  port := 5432
  user := "postgres"
  password := none
  database := "accounts"
  schema := "public"
  poolSize := 10
  connectTimeoutMs := 5000
  idleTimeoutMs := some defaultIdleTimeoutMs
  runMigrations := true
  echoSql := false

def StorageSettings.standard : StorageSettings := ⟨.postgres, .standard, none⟩

def PageSettings.standard : PageSettings := ⟨defaultPageSize, maxPageSize, .empty⟩

def Settings.standard : Settings := ⟨.standard, .standard, .standard, "info"⟩

/-! ## Shapes -/

def ServerSettings.shape : Shape ServerSettings :=
  Shape.mapTo
    (.record "ServerConfig" <|
      .default "host" .text standard.host <|
      .default "port" .unsigned16 standard.port.toNat <|
      .default "api_prefix" .text standard.apiPrefix <|
      .default "body_limit_bytes" .size standard.bodyLimit.toNat <|
      .default "cors_origins" (.list .text) standard.corsOrigins .nil)
    (fun (host, port, apiPrefix, bodyLimit, origins, ()) =>
      ⟨host, .ofNat port, apiPrefix, .ofNat bodyLimit, origins⟩)
    (fun s => (s.host, s.port.toNat, s.apiPrefix, s.bodyLimit.toNat, s.corsOrigins, ()))

def Backend.shape : Shape Backend := .choice [.postgres, .memory] Backend.name

/-- Where only some parts are given, there is no idle timeout unless it is given too. -/
def DatabaseAccess.shape : Shape DatabaseAccess :=
  Shape.mapTo
    (.record "PostgresStorageConfig" <|
      .default "url" (.option .text) standard.url <|
      .default "host" .text standard.host <|
      .default "port" .unsigned16 standard.port.toNat <|
      .default "user" .text standard.user <|
      .default "password" (.option .text) standard.password <|
      .default "database" .text standard.database <|
      .default "schema" .text standard.schema <|
      .default "pool_size" .unsigned32 standard.poolSize.toNat <|
      .default "connect_timeout_ms" .unsigned64 standard.connectTimeoutMs.toNat <|
      .default "idle_timeout_ms" (.option .unsigned64) none <|
      .default "run_migrations" .bool standard.runMigrations <|
      .default "echo_sql" .bool standard.echoSql .nil)
    (fun (url, host, port, user, password, database, schema, poolSize, connect, idle, migrate, echo,
        ()) =>
      ⟨url, host, .ofNat port, user, password, database, schema, .ofNat poolSize, .ofNat connect,
        idle.map .ofNat, migrate, echo⟩)
    (fun s => (s.url, s.host, s.port.toNat, s.user, s.password, s.database, s.schema,
      s.poolSize.toNat, s.connectTimeoutMs.toNat, s.idleTimeoutMs.map UInt64.toNat,
      s.runMigrations, s.echoSql, ()))

/-- The seed file of a store in memory. -/
def seedFileShape : Shape (Option String) :=
  Shape.mapTo
    (.record "MemoryStorageConfig" <|
      .default "seed_file" (.option (.string "path string" .ok .ok)) none .nil)
    Prod.fst (fun file => (file, ()))

def StorageSettings.shape : Shape StorageSettings :=
  Shape.mapTo
    (.record "StorageConfig" <|
      .default "backend" Backend.shape standard.backend <|
      .default "postgres" DatabaseAccess.shape standard.database <|
      .default "memory" seedFileShape standard.seedFile .nil)
    (fun (backend, database, seedFile, ()) => ⟨backend, database, seedFile⟩)
    (fun s => (s.backend, s.database, s.seedFile, ()))

def PageSettings.shape : Shape PageSettings :=
  Shape.mapTo
    (.record "PaginationConfig" <|
      .default "default_size" .unsigned32 standard.defaultSize.toNat <|
      .default "max_size" .unsigned32 standard.maxSize.toNat <|
      .default "overflow" PageOverflow.shape standard.overflow .nil)
    (fun (defaultSize, maxSize, overflow, ()) => ⟨.ofNat defaultSize, .ofNat maxSize, overflow⟩)
    (fun s => (s.defaultSize.toNat, s.maxSize.toNat, s.overflow, ()))

def logLevelShape : Shape String :=
  Shape.mapTo
    (.record "LoggingConfig" <| .default "level" .text Settings.standard.logLevel .nil)
    Prod.fst (fun level => (level, ()))

def Settings.shape : Shape Settings :=
  Shape.mapTo
    (.record "AppConfig" <|
      .default "server" ServerSettings.shape standard.server <|
      .default "storage" StorageSettings.shape standard.storage <|
      .default "pagination" PageSettings.shape standard.pages <|
      .default "logging" logLevelShape standard.logLevel .nil)
    (fun (server, storage, pages, logLevel, ()) => ⟨server, storage, pages, logLevel⟩)
    (fun s => (s.server, s.storage, s.pages, s.logLevel, ()))

/-! ## What follows from settings -/

/-- Where the service listens; on all interfaces if the host is no address. -/
def Settings.endpoint (s : Settings) : Endpoint :=
  ⟨(IpAddress.read? s.server.host).getD .unspecified, s.server.port⟩

namespace DatabaseAccess

def connection (d : DatabaseAccess) : String :=
  match d.url with
  | some url => url
  | none => connectionText d.user d.password d.host d.port d.database

/-- The connection text as it may be logged. -/
def maskedConnection (d : DatabaseAccess) : String := maskPassword d.connection

def toDatabaseSettings (d : DatabaseAccess) : DatabaseSettings :=
  ⟨d.connection, d.poolSize, d.connectTimeoutMs, some (d.idleTimeoutMs.getD defaultIdleTimeoutMs),
    d.schema, d.runMigrations, d.echoSql⟩

end DatabaseAccess

end AccountRegistry
