import AccountRegistry.Http.Header
import AccountRegistry.Settings.Basic

/-! # Checking settings

Settings with which the service cannot work are refused, with the first reason in the order of the
sections.
-/

namespace AccountRegistry

def logLevels : List String := ["trace", "debug", "info", "warn", "error", "off"]

inductive SettingsFault
  | zero (setting : String)
  | apiPrefix
  | origin (text : String)
  | defaultSize
  | logLevel
  | noHost
  | noDatabase
  | schema (reason : StatementError)
  deriving DecidableEq, Repr

def SettingsFault.message : SettingsFault → String
  | .zero setting => s!"{setting} must be > 0"
  | .apiPrefix => "server.api_prefix must be empty or start with '/' and not end with '/'"
  | .origin text => s!"server.cors_origins contains an invalid origin: {text}"
  | .defaultSize => "pagination.default_size must be <= pagination.max_size"
  | .logLevel =>
    "logging.level must be one of ["
      ++ ", ".intercalate (logLevels.map fun l => "\"" ++ l ++ "\"") ++ "]"
  | .noHost => "storage.postgres requires either 'url' or 'host' to be set"
  | .noDatabase => "storage.postgres.database must not be empty"
  | .schema reason => s!"storage.postgres.schema is invalid: {reason.message}"

/-- Fails with a fault unless a condition holds. -/
def demand (ok : Bool) (fault : SettingsFault) : Except SettingsFault Unit :=
  if ok then .ok () else .error fault

/-- Whether paths can be put behind a text. -/
def isPathStart (s : String) : Bool :=
  s.isEmpty || (s.toList.head? == some '/' && s.toList.getLast? != some '/')

def ServerSettings.check (s : ServerSettings) : Except SettingsFault Unit := do
  demand (s.port != 0) (.zero "server.port")
  demand (s.bodyLimit != 0) (.zero "server.body_limit_bytes")
  demand (isPathStart s.apiPrefix) .apiPrefix
  match s.corsOrigins.find? fun o => !Http.isValue o with
  | some o => .error (.origin o)
  | none => .ok ()

def PageSettings.check (s : PageSettings) : Except SettingsFault Unit := do
  demand (s.maxSize != 0) (.zero "pagination.max_size")
  demand (s.defaultSize != 0) (.zero "pagination.default_size")
  demand (s.defaultSize ≤ s.maxSize) .defaultSize

/-- A level may be written in either letter case. -/
def isLogLevel (s : String) : Bool := logLevels.contains (s.map Char.toLower)

def DatabaseAccess.check (d : DatabaseAccess) : Except SettingsFault Unit := do
  demand (d.url.isSome || !d.host.isEmpty) .noHost
  demand (d.url.isSome || !d.database.isEmpty) .noDatabase
  demand (d.poolSize != 0) (.zero "storage.postgres.pool_size")
  match quoteIdentifier d.schema with
  | .ok _ => .ok ()
  | .error e => .error (.schema e)

/-- The settings of a database matter only if it is used. -/
def Settings.check (s : Settings) : Except SettingsFault Unit := do
  s.server.check
  s.pages.check
  demand (isLogLevel s.logLevel) .logLevel
  match s.storage.backend with
  | .postgres => s.storage.database.check
  | .memory => .ok ()

end AccountRegistry
