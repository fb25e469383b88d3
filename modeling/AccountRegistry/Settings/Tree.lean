import AccountRegistry.Json.Basic

/-! # Trees of settings

Settings from several sources are laid over each other: tables are merged member by member,
everything else is replaced.
-/

namespace AccountRegistry

open Json

/-- A table of settings. -/
abbrev SettingTable := List (String × Value)

/-- Puts a setting in the place of an older one, or behind all others. -/
def putSetting (key : String) (v : Value) : SettingTable → SettingTable
  | [] => [(key, v)]
  | (k, w) :: rest => if k = key then (key, v) :: rest else (k, w) :: putSetting key v rest

mutual

/-- A setting laid over an older one. -/
def overlay (v : Value) (older : Option Value) : Value :=
  match v with
  | .object members =>
    .object (overlayAll members (match older with
      | some (.object ms) => ms
      | _ => []))
  | .null => .null
  | .bool b => .bool b
  | .number n => .number n
  | .string s => .string s
  | .array items => .array items

/-- The members of a table laid over another one. -/
def overlayAll : SettingTable → SettingTable → SettingTable
  | [], table => table
  | (key, v) :: rest, table =>
    overlayAll rest (putSetting key (overlay v (member? key table)) table)

end

/-- Characters of the names in a path. -/
def isPathChar (c : Char) : Bool := c.isAlphanum || c == '_' || c == '-'

/-- The names between the dots of a key; a key that is no path is one name. -/
def settingPath (key : String) : List String :=
  let names := key.splitOn "."
  if names.all fun n => !n.isEmpty && n.toList.all isPathChar then names else [key]

/-- The table in which only one setting is given. -/
def tableAt (v : Value) : List String → SettingTable
  | [] => []
  | [name] => [(name, v)]
  | name :: names => [(name, .object (tableAt v names))]

/-- A table in which the keys at the top are paths, laid over another one. -/
def overlayPaths (table : SettingTable) (newer : SettingTable) : SettingTable :=
  newer.foldl (fun table (key, v) => overlayAll (tableAt v (settingPath key)) table) table

end AccountRegistry
