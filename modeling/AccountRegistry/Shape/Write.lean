import AccountRegistry.Json.Basic
import AccountRegistry.Shape.Basic

/-! # Data to JSON values

Every shape is written as the value from which it can be read back; some values of a type have no
written form.
-/

namespace AccountRegistry

open Json

mutual

def Shape.write : {α : Type} → Shape α → α → Except String Value
  | _, .string _ _ write, x => (write x).map .string
  | _, .bool, b => .ok (.bool b)
  | _, .natural _ _, n => .ok (.number (.natural n))
  | _, .integer, n => .ok (.ofInt n)
  | _, .choice _ label, x => .ok (.string (label x))
  | _, .option s, x =>
    match x with
    | none => .ok .null
    | some x => s.write x
  | _, .list s, xs => (xs.mapM fun x => s.write x).map .array
  | _, .record _ members, x => (members.write x).map .object
  | _, .refine s _ write, y => do s.write (← write y)
  | _, .either _ s t, x =>
    match x with
    | .inl x => s.write x
    | .inr y => t.write y

def Members.write : {α σ : Type} → Members α σ → α → Except String (List (String × Value))
  | _, _, .nil, _ => .ok []
  | _, _, .cons key s _ hidden rest, (x, xs) =>
    if hidden x then rest.write xs
    else do
      let v ← s.write x
      let vs ← rest.write xs
      return (key, v) :: vs

end

end AccountRegistry
