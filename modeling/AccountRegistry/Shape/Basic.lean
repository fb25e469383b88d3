/-! # Shapes of stored data

A shape describes how values of a type are laid down as data: which text, number, list or record
they are, what may be missing, and which texts are refused. Readers and the writer are recursions on
the shape.
-/

namespace AccountRegistry

mutual

/-- A layout for the values of a type. -/
inductive Shape : Type → Type 1
  /-- Texts with a reading of their own; `expecting` names them in complaints. -/
  | string {α : Type} (expecting : String) (read : String → Except String α)
      (write : α → Except String String) : Shape α
  | bool : Shape Bool
  /-- Integers from zero to `bound`. -/
  | natural (name : String) (bound : Nat) : Shape Nat
  /-- Integers of 64 bits with a sign. -/
  | integer : Shape Int
  /-- One of some labels. -/
  | choice {α : Type} (options : List α) (label : α → String) : Shape α
  | option {α : Type} (s : Shape α) : Shape (Option α)
  | list {α : Type} (s : Shape α) : Shape (List α)
  | record {α σ : Type} (name : String) (members : Members α σ) : Shape α
  /-- A further reading of what another shape holds. -/
  | refine {α β : Type} (s : Shape α) (read : α → Except String β)
      (write : β → Except String α) : Shape β
  /-- Whichever of two shapes fits, the first one preferred. -/
  | either {α β : Type} (name : String) (s : Shape α) (t : Shape β) : Shape (α ⊕ β)

/-- The members of a record, and the type of what has been read of them so far. -/
inductive Members : Type → Type → Type 1
  | nil : Members Unit Unit
  /-- A member: its value when it is missing, and the values that are not written. -/
  | cons {α β σ : Type} (key : String) (s : Shape α) (absent : Option α) (hidden : α → Bool)
      (rest : Members β σ) : Members (α × β) (Option α × σ)

end

namespace Members

/-- A member that must be there. -/
def required {α β σ : Type} (key : String) (s : Shape α) (rest : Members β σ) :
    Members (α × β) (Option α × σ) :=
  .cons key s none (fun _ => false) rest

/-- A member with a value for when it is missing. -/
def default {α β σ : Type} (key : String) (s : Shape α) (absent : α) (rest : Members β σ) :
    Members (α × β) (Option α × σ) :=
  .cons key s (some absent) (fun _ => false) rest

/-- An optional member that is left out when there is nothing to write. -/
def omitted {α β σ : Type} (key : String) (s : Shape α) (rest : Members β σ) :
    Members (Option α × β) (Option (Option α) × σ) :=
  .cons key (.option s) (some none) Option.isNone rest

def count {α σ : Type} : Members α σ → Nat
  | .nil => 0
  | .cons _ _ _ _ rest => rest.count + 1

/-- Nothing read yet. -/
def unread {α σ : Type} : Members α σ → σ
  | .nil => ()
  | .cons _ _ _ _ rest => (none, rest.unread)

/-- All members, once everything that is there has been read. -/
def finish {α σ : Type} : Members α σ → σ → Except String α
  | .nil, () => .ok ()
  | .cons key _ absent _ rest, (slot, slots) => do
    let x ← match slot, absent with
      | some x, _ => .ok x
      | none, some x => .ok x
      | none, none => .error s!"missing field `{key}`"
    let xs ← rest.finish slots
    return (x, xs)

end Members

namespace Shape

/-- Any text, as it is. -/
def text : Shape String := .string "a string" .ok .ok

def unsigned16 : Shape Nat := .natural "u16" (UInt16.size - 1)

def unsigned32 : Shape Nat := .natural "u32" (UInt32.size - 1)

def unsigned64 : Shape Nat := .natural "u64" (UInt64.size - 1)

def size : Shape Nat := .natural "usize" (UInt64.size - 1)

/-- The same layout under another view of the values. -/
def mapTo {α β : Type} (s : Shape α) (f : α → β) (g : β → α) : Shape β :=
  .refine s (fun x => .ok (f x)) (fun y => .ok (g y))

end Shape

/-- How a record is called in complaints about the number of its items. -/
def recordOf (name : String) (count : Nat) : String :=
  s!"{name} with {count} " ++ if count = 1 then "element" else "elements"

def duplicateMember (key : String) : String := s!"duplicate field `{key}`"

def wrongLength (length : Nat) (expected : String) : String :=
  s!"invalid length {length}, expected {expected}"

def wrongType (found expected : String) : String := s!"invalid type: {found}, expected {expected}"

def wrongValue (found expected : String) : String := s!"invalid value: {found}, expected {expected}"

/-- The labels of a choice, for the complaint about an unknown one. -/
def expectedLabels : List String → String
  | [] => "there are no variants"
  | [a] => s!"expected `{a}`"
  | [a, b] => s!"expected `{a}` or `{b}`"
  | labels => "expected one of " ++ ", ".intercalate (labels.map fun l => s!"`{l}`")

def unknownLabel (label : String) (labels : List String) : String :=
  s!"unknown variant `{label}`, {expectedLabels labels}"

end AccountRegistry
