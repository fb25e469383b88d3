import AccountRegistry.Relational.Store
import AccountRegistry.Settings.Basic
import AccountRegistry.Store.Memory

/-! # Opening the store

The store that the settings ask for: a database that can be reached, or a store in memory with the
accounts of its seed file.
-/

namespace AccountRegistry

inductive StartupFault
  | seed (path : String) (e : StoreError)
  | database (e : DatabaseError)
  deriving DecidableEq, Repr

def StartupFault.message : StartupFault → String
  | .seed path e => s!"failed to seed memory storage from {path}: {e.message}"
  | .database e => s!"failed to initialize PostgreSQL storage: {e.trace}"

/-- A store in memory with the accounts of a file, if one is named. -/
def openMemory (seedFile : Option String) (files : String → MemoryStore.FileText) :
    Except StartupFault MemoryStore :=
  match seedFile with
  | none => .ok .empty
  | some path =>
    match MemoryStore.empty.load path (files path) with
    | .ok (s, _) => .ok s
    | .error e => .error (.seed path e)

/-- The store of some settings. A program that opens one writes a log of the standard level. -/
def StorageSettings.open (s : StorageSettings) (files : String → MemoryStore.FileText)
    (server : Server) : Except StartupFault AccountSource :=
  match s.backend with
  | .memory => (openMemory s.seedFile files).map MemoryStore.source
  | .postgres =>
    match (RelationalStore.connect s.database.toDatabaseSettings server).start.1 with
    | .ok store => .ok (store.source .standard server)
    | .error e => .error (.database e)

end AccountRegistry
