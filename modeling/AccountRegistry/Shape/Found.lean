import AccountRegistry.Json.Printer
import AccountRegistry.Shape.Basic
import AccountRegistry.Text.Quoted

/-! # What was found

How data that does not fit a shape is described, and the reading of numbers and labels that all
sources of data share.
-/

namespace AccountRegistry

open Json

def Json.Number.found : Number → String
  | .natural n => s!"integer `{n}`"
  | .negative n => s!"integer `-{n}`"
  | .float x => s!"floating point `{String.ofList (printFloat x)}`"

def Json.Value.found : Value → String
  | .null => "null"
  | .bool b => s!"boolean `{b}`"
  | .number n => n.found
  | .string s => s!"string {Text.quoted s}"
  | .array _ => "sequence"
  | .object _ => "map"

/-- A number that must be an integer from zero to `bound`. -/
def naturalOf (name : String) (bound : Nat) : Number → Except String Nat
  | .natural n => if n ≤ bound then .ok n else .error (wrongValue (Number.natural n).found name)
  | .negative n => .error (wrongValue (Number.negative n).found name)
  | .float x => .error (wrongType (Number.float x).found name)

/-- A number that must be an integer of 64 bits with a sign. -/
def integerOf : Number → Except String Int
  | .natural n =>
    if n < UInt64.size / 2 then .ok n else .error (wrongValue (Number.natural n).found "i64")
  | .negative n => .ok (-n)
  | .float x => .error (wrongType (Number.float x).found "i64")

def choiceOf {α : Type} (options : List α) (label : α → String) (s : String) : Except String α :=
  match options.find? fun x => label x == s with
  | some x => .ok x
  | none => .error (unknownLabel s (options.map label))

end AccountRegistry
