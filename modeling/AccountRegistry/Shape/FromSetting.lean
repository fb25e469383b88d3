import AccountRegistry.Decimal.Plain
import AccountRegistry.Json.Basic
import AccountRegistry.Shape.Basic
import AccountRegistry.Text.LowerCase

/-! # Data from settings

Settings are read more freely than other data: numbers and switches may be given as texts, texts as
numbers or switches, and numbers that are too large lose their upper bits.
-/

namespace AccountRegistry

open Json

/-- A number as settings hold it: as a double unless it fits 64 bits with a sign. -/
def settingNumber : Number → Number
  | .natural n => if n < UInt64.size / 2 then .natural n else .float (UInt64.ofNat n).toFloat
  | .negative n => .negative n
  | .float x => .float x

def numberText (n : Number) : String :=
  match settingNumber n with
  | .natural n => toString n
  | .negative n => s!"-{n}"
  | .float x => Decimal.plainText x

/-- A setting as a text. -/
def settingText : Value → Option String
  | .string s => some s
  | .bool b => some (if b then "true" else "false")
  | .number n => some (numberText n)
  | .null | .array _ | .object _ => none

/-- Words for on and off. -/
def switchWord (s : String) : Option Bool :=
  let w := Text.lower s
  if w = "true" || w = "on" || w = "yes" then some true
  else if w = "false" || w = "off" || w = "no" then some false
  else none

def settingBool : Value → Option Bool
  | .bool b => some b
  | .string s => if s = "1" then some true else if s = "0" then some false else switchWord s
  | .number (.natural n) => some (n != 0)
  | .number (.negative n) => some (n != 0)
  | .number (.float x) => some (x != 0.0)
  | .null | .array _ | .object _ => none

def numberNatural (n : Number) : Option Nat :=
  match settingNumber n with
  | .natural n => some n
  | .negative n => if n = 0 then some 0 else none
  | .float x => some x.round.toUInt64.toNat

/-- A setting as a number of 64 bits. -/
def settingNatural : Value → Option Nat
  | .number n => numberNatural n
  | .bool b => some b.toNat
  | .string s =>
    match switchWord s with
    | some b => some b.toNat
    | none => Decimal.natural64? s.toList
  | .null | .array _ | .object _ => none

def numberInteger (n : Number) : Int :=
  match settingNumber n with
  | .natural n => n
  | .negative n => -n
  | .float x => x.round.toInt64.toInt

def settingInteger : Value → Option Int
  | .number n => some (numberInteger n)
  | .bool b => some b.toNat
  | .string s =>
    match switchWord s with
    | some b => some b.toNat
    | none => Decimal.integer64? s.toList
  | .null | .array _ | .object _ => none

/-- The label that a setting chooses; with one member, its key. -/
def settingLabel : Value → Option String
  | .string s => some s
  | .object [(key, _)] => some key
  | _ => none

mutual

def Shape.ofSetting : {α : Type} → Shape α → Value → Option α
  | _, .string _ read _, v => do (read (← settingText v)).toOption
  | _, .bool, v => settingBool v
  | _, .natural _ bound, v => (settingNatural v).map (· % (bound + 1))
  | _, .integer, v => settingInteger v
  | _, .choice options label, v => do
    let s ← settingLabel v
    options.find? fun x => label x == s
  | _, .option s, v =>
    match v with
    | .null => some none
    | v => (s.ofSetting v).map some
  | _, .list s, v =>
    match v with
    | .array items => items.mapM fun x => s.ofSetting x
    | _ => none
  | _, .record _ members, v =>
    match v with
    | .object entries => members.ofEntries entries
    | .array items => members.ofSettings items
    | _ => none
  | _, .refine s read _, v => do (read (← s.ofSetting v)).toOption
  | _, .either _ s t, v => ((s.ofSetting v).map .inl).orElse fun _ => (t.ofSetting v).map .inr

/-- The members of an object, found by their keys. -/
def Members.ofEntries : {α σ : Type} → Members α σ → List (String × Value) → Option α
  | _, _, .nil, _ => some ()
  | _, _, .cons key s absent _ rest, entries => do
    let x ← match member? key entries with
      | some v => s.ofSetting v
      | none => absent
    return (x, ← rest.ofEntries entries)

/-- The members as items in order. -/
def Members.ofSettings : {α σ : Type} → Members α σ → List Value → Option α
  | _, _, .nil, _ => some ()
  | _, _, .cons _ s absent _ rest, items => do
    let x ← match items with
      | v :: _ => s.ofSetting v
      | [] => absent
    return (x, ← rest.ofSettings items.tail)

end

end AccountRegistry
