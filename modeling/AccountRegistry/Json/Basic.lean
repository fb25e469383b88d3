/-! # JSON values

Values as written: the members of an object keep their order and may repeat a key. `Value.canonical`
is the form in which every key occurs once, in order, with the value it was given last.
-/

namespace AccountRegistry.Json

inductive Number
  /-- An integer from zero up. -/
  | natural (n : Nat)
  /-- The integer `-n`. -/
  | negative (n : Nat)
  | float (x : Float)

inductive Value
  | null
  | bool (b : Bool)
  | number (n : Number)
  | string (s : String)
  | array (items : List Value)
  | object (members : List (String × Value))

instance : Inhabited Value := ⟨.null⟩

def Value.ofInt (n : Int) : Value :=
  .number (if 0 ≤ n then .natural n.toNat else .negative (-n).toNat)

/-- Puts a member in key order, in place of an older one of the same key. -/
def insertMember {α : Type} (key : String) (v : α) : List (String × α) → List (String × α)
  | [] => [(key, v)]
  | (k, w) :: rest =>
    if key = k then (key, v) :: rest
    else if key < k then (key, v) :: (k, w) :: rest
    else (k, w) :: insertMember key v rest

mutual

def Value.canonical : Value → Value
  | .array items => .array (canonicalItems items)
  | .object members => .object (canonicalMembers [] members)
  | .null => .null
  | .bool b => .bool b
  | .number n => .number n
  | .string s => .string s

def canonicalItems : List Value → List Value
  | [] => []
  | v :: rest => v.canonical :: canonicalItems rest

def canonicalMembers (done : List (String × Value)) : List (String × Value) → List (String × Value)
  | [] => done
  | (key, v) :: rest => canonicalMembers (insertMember key v.canonical done) rest

end

/-- The value of the first member with this key. -/
def member? {α : Type} (key : String) : List (String × α) → Option α
  | [] => none
  | (k, v) :: rest => if k = key then some v else member? key rest

end AccountRegistry.Json
