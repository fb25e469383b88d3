import AccountRegistry.Json.Reader
import AccountRegistry.Settings.Check
import AccountRegistry.Settings.Environment
import AccountRegistry.Settings.Ini
import AccountRegistry.Settings.Json5
import AccountRegistry.Settings.Ron
import AccountRegistry.Settings.Yaml
import AccountRegistry.Shape.FromSetting

/-! # Loading settings

Settings come from a file, if there is one, and from the environment, which is laid over the file.
-/

namespace AccountRegistry

/-- A format of settings files. -/
inductive SettingsFormat | toml | json | yaml | ini | json5 | ron
  deriving DecidableEq, Repr

namespace SettingsFormat

def ofExtension? (extension : String) : Option SettingsFormat :=
  if extension = "toml" then some .toml
  else if extension = "json" then some .json
  else if extension = "yaml" ∨ extension = "yml" then some .yaml
  else if extension = "ini" then some .ini
  else if extension = "json5" then some .json5
  else if extension = "ron" then some .ron
  else none

/-- The table that a text of the format holds. -/
def read? (f : SettingsFormat) (text : String) : Option SettingTable :=
  match f with
  | .toml => Toml.parse text
  | .yaml => Yaml.parse text
  | .ini => Ini.parse text
  | .json5 => Json5.parse text
  | .ron => Ron.parse text
  | .json =>
    match Json.parse text with
    | .error _ => none
    | .ok v =>
      match v.canonical with
      | .object members => some members
      | _ => none

end SettingsFormat

/-- A file of settings: the extension of its name, and its text. -/
structure SettingsFile where
  extension : String
  text : String

def SettingsFile.read? (f : SettingsFile) : Option SettingTable := do
  (← SettingsFormat.ofExtension? f.extension).read? f.text

inductive LoadFault
  /-- The file cannot be read as settings. -/
  | source
  /-- A setting has a value of the wrong kind. -/
  | value
  | refused (f : SettingsFault)
  deriving DecidableEq, Repr

def LoadFault.message : LoadFault → String
  | .source => "config build error"
  | .value => "config deserialize error"
  | .refused f => f.message

/-- The settings of a file and the environment. -/
def Settings.load (file : Option SettingsFile) (environment : List (String × String)) :
    Except LoadFault Settings := do
  let table ← match file with
    | none => .ok []
    | some f =>
      match f.read? with
      | some table => .ok (overlayPaths [] table)
      | none => .error .source
  let table := overlayPaths table (settingsOfEnvironment environment)
  match Settings.shape.ofSetting (.object table) with
  | none => .error .value
  | some s =>
    match s.check with
    | .ok () => .ok s
    | .error f => .error (.refused f)

end AccountRegistry
