import AccountRegistry.Decimal.Plain
import AccountRegistry.Settings.Tree
import AccountRegistry.Text.LowerCase
import AccountRegistry.Text.Split

/-! # Settings from the environment

Variables whose names begin with a mark hold settings. Two underscores in a name separate the names
of a path, and values that read as switches or numbers are taken as such.
-/

namespace AccountRegistry

open Json

/-- What the names of variables for settings begin with, in lower case. -/
def environmentMark : String := "accounts__"

/-- The setting whose value is a list with commas between its items. -/
def listSetting : String := "server.cors_origins"

/-- The key of the setting that a variable holds. -/
def settingKey? (name : String) : Option String :=
  (Text.stripStart? environmentMark.toList (Text.lower name).toList).map fun rest =>
    ".".intercalate ((String.ofList rest).splitOn "__")

/-- The value of a variable for a setting. -/
def variableValue (key value : String) : Value :=
  let word := Text.lower value
  if word = "true" then .bool true
  else if word = "false" then .bool false
  else match Decimal.integer64? value.toList with
    | some n => .ofInt n
    | none =>
      match Decimal.float? value.toList with
      | some x => .number (.float x)
      | none =>
        if key = listSetting then .array ((value.splitOn ",").map .string) else .string value

/-- The settings that some variables hold. -/
def settingsOfEnvironment (environment : List (String × String)) : SettingTable :=
  environment.filterMap fun (name, value) =>
    (settingKey? name).map fun key => (key, variableValue key value)

end AccountRegistry
