import AccountRegistry.Json.Fault
import AccountRegistry.Shape.Found

/-! # Data from JSON values

A value is read against a shape. Members that the shape does not name are ignored; a record may also
be a list of its members in order.
-/

namespace AccountRegistry

open Json

/-- A complaint in its final wording. -/
def complain {α : Type} (message : String) : Except String α :=
  .error ((complaint message []).message [])

def complained {α : Type} : Except String α → Except String α
  | .ok x => .ok x
  | .error message => complain message

/-- Runs through the members of an object. -/
def foldMembers {σ : Type} (step : String → Value → σ → Except String σ) :
    List (String × Value) → σ → Except String σ
  | [], s => .ok s
  | (key, v) :: rest, s => do foldMembers step rest (← step key v s)

mutual

def Shape.ofValue : {α : Type} → Shape α → Value → Except String α
  | _, .string expecting read _, v =>
    match v with
    | .string s => complained (read s)
    | v => complain (wrongType v.found expecting)
  | _, .bool, v =>
    match v with
    | .bool b => .ok b
    | v => complain (wrongType v.found "a boolean")
  | _, .natural name bound, v =>
    match v with
    | .number n => complained (naturalOf name bound n)
    | v => complain (wrongType v.found name)
  | _, .integer, v =>
    match v with
    | .number n => complained (integerOf n)
    | v => complain (wrongType v.found "i64")
  | _, .choice options label, v =>
    match v with
    | .string s => complained (choiceOf options label s)
    | .object [(key, w)] => do
      let x ← complained (choiceOf options label key)
      match w with
      | .null => return x
      | w => complain (wrongType w.found "unit")
    | .object _ => complain (wrongValue "map" "map with a single key")
    | v => complain (wrongType v.found "string or map")
  | _, .option s, v =>
    match v with
    | .null => .ok none
    | v => (s.ofValue v).map some
  | _, .list s, v =>
    match v with
    | .array items => items.mapM fun x => s.ofValue x
    | v => complain (wrongType v.found "a sequence")
  | _, .record name members, v =>
    match v with
    | .array items =>
      members.ofItems (recordOf s!"struct {name}" members.count) items.length 0 items
    | .object entries => do
      let slots ← foldMembers (fun key w slots => members.acceptValue key w slots) entries
        members.unread
      complained (members.finish slots)
    | v => complain (wrongType v.found s!"struct {name}")
  | _, .refine s read _, v => do complained (read (← s.ofValue v))
  | _, .either name s t, v =>
    match s.ofValue v with
    | .ok x => .ok (.inl x)
    | .error _ =>
      match t.ofValue v with
      | .ok y => .ok (.inr y)
      | .error _ => complain s!"data did not match any variant of untagged enum {name}"

/-- The members in order, item `i` being the next one of `total`. -/
def Members.ofItems : {α σ : Type} → Members α σ → (whole : String) → (total i : Nat) →
    List Value → Except String α
  | _, _, .nil, _, total, _, items =>
    match items with
    | [] => .ok ()
    | _ :: _ => complain (wrongLength total "fewer elements in array")
  | _, _, .cons _ s absent _ rest, whole, total, i, items =>
    match items with
    | v :: items => do
      let x ← s.ofValue v
      let xs ← rest.ofItems whole total (i + 1) items
      return (x, xs)
    | [] =>
      match absent with
      | some x => do
        let xs ← rest.ofItems whole total (i + 1) []
        return (x, xs)
      | none => complain (wrongLength i whole)

/-- Takes in one member of an object. -/
def Members.acceptValue : {α σ : Type} → Members α σ → String → Value → σ → Except String σ
  | _, _, .nil, _, _, slots => .ok slots
  | _, _, .cons key s _ _ rest, k, v, (slot, slots) =>
    if key = k then
      match slot with
      | some _ => complain (duplicateMember key)
      | none => do
        let x ← s.ofValue v
        return (some x, slots)
    else do
      let slots ← rest.acceptValue k v slots
      return (slot, slots)

end

end AccountRegistry
