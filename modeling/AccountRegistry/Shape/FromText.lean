import AccountRegistry.Json.Skip
import AccountRegistry.Shape.FromValue

/-! # Data from JSON texts

The same readings as for values, made while the text is read, so that of several faults the first
one in the text is reported, with its place. A complaint about a member is placed at the end of the
record that holds it.
-/

namespace AccountRegistry

open Json

/-- A complaint about what has just been read. -/
def complainAt {α : Type} (message : String) (rest : List Char) : Except Fault α :=
  .error ((complaint message rest).settle rest)

/-- A reading of what has just been read, placed here if it fails. -/
def checkAt {α : Type} (r : Except String α) (rest : List Char) : Except Fault (α × List Char) :=
  match r with
  | .ok x => .ok (x, rest)
  | .error message => complainAt message rest

/-- Describes the value at the head of a text, which is none of those expected. -/
def unexpected {α : Type} (expected : String) (cs : List Char) : Except Fault α :=
  match cs with
  | 'n' :: r => do
    let ((), r) ← word "ull".toList r
    complainAt (wrongType Value.null.found expected) r
  | 't' :: r => do
    let ((), r) ← word "rue".toList r
    complainAt (wrongType (Value.bool true).found expected) r
  | 'f' :: r => do
    let ((), r) ← word "alse".toList r
    complainAt (wrongType (Value.bool false).found expected) r
  | '-' :: r => do
    let (n, r) ← numberBody false r
    complainAt (wrongType n.found expected) r
  | '"' :: r => do
    let (s, r) ← stringBody [] r
    complainAt (wrongType (Value.string s).found expected) r
  | '[' :: r => complainAt (wrongType (Value.array []).found expected) ('[' :: r)
  | '\x7b' :: r => complainAt (wrongType (Value.object []).found expected) ('\x7b' :: r)
  | c :: r =>
    if c.isDigit then do
      let (n, r) ← numberBody true (c :: r)
      complainAt (wrongType n.found expected) r
    else stopSeeing .expectedValue (c :: r)
  | [] => stopSeeing .expectedValue []

/-- What is unread after the end of a list, as far as it is there. -/
def afterList (cs : List Char) : List Char :=
  match skipSpace cs with
  | ']' :: r => r
  | ',' :: r => skipSpace r
  | r => r

/-- What is unread after the end of an object, as far as it is there. -/
def afterObject (cs : List Char) : List Char :=
  match skipSpace cs with
  | '\x7d' :: r => r
  | r => r

/-- Closes a container after its contents; a complaint without a place is placed behind it. -/
def enclose {α : Type} (close : Reader Unit) (after : List Char → List Char)
    (contents : Except Fault (α × List Char)) : Except Fault (α × List Char) :=
  match contents with
  | .ok (x, cs) => (close cs).map fun p => (x, p.2)
  | .error f => .error (f.settle (after f.rest))

/-- A number read with its sign, to be taken by `take`. -/
def numberWith {α : Type} (expected : String) (take : Number → Except String α) :
    Reader α := fun cs =>
  match skipSpace cs with
  | [] => stopAt .endInValue [] 0
  | '-' :: r => do
    let (n, r) ← numberBody false r
    checkAt (take n) r
  | c :: r =>
    if c.isDigit then do
      let (n, r) ← numberBody true (c :: r)
      checkAt (take n) r
    else unexpected expected (c :: r)

/-- A text, to be taken by `take`. -/
def stringWith {α : Type} (expected : String) (take : String → Except String α) :
    Reader α := fun cs =>
  match skipSpace cs with
  | [] => stopAt .endInValue [] 0
  | '"' :: r => do
    let (s, r) ← stringBody [] r
    checkAt (take s) r
  | cs => unexpected expected cs

def boolean : Reader Bool := fun cs =>
  match skipSpace cs with
  | [] => stopAt .endInValue [] 0
  | 't' :: r => (word "rue".toList r).map fun p => (true, p.2)
  | 'f' :: r => (word "alse".toList r).map fun p => (false, p.2)
  | cs => unexpected "a boolean" cs

/-- The value `null` where nothing else may stand. -/
def unit : Reader Unit := fun cs =>
  match skipSpace cs with
  | [] => stopAt .endInValue [] 0
  | 'n' :: r => word "ull".toList r
  | cs => unexpected "unit" cs

/-- A label, on its own or as the only key of an object with the value `null`. -/
def label {α : Type} (take : String → Except String α) : Reader α := fun cs =>
  match skipSpace cs with
  | [] => stopAt .endInValue [] 0
  | '"' :: r => stringWith "variant identifier" take ('"' :: r)
  | '\x7b' :: r => do
    let (x, r) ← stringWith "variant identifier" take r
    let ((), r) ← colon r
    let ((), r) ← unit r
    match skipSpace r with
    | '\x7d' :: r => return (x, r)
    | [] => stopAt .endInObject [] 0
    | r => stopAt .expectedValue r 0
  | cs => stopSeeing .expectedValue cs

/-- Runs through the members of an object up to its closing brace. -/
def readMembers {σ : Type} (step : String → σ → Reader σ) : Nat → Bool → σ → Reader σ
  | 0, _, _, cs => stopSeeing .expectedValue cs
  | fuel + 1, first, s, cs => do
    let (more, cs) ← moreMembers first cs
    if more then
      let (k, cs) ← key cs
      let (s, cs) ← step k s cs
      readMembers step fuel false s cs
    else return (s, cs)

mutual

/-- The data at the head of a text; lists and records nest less than `depth` deep. -/
def Shape.read : {α : Type} → Shape α → (depth : Nat) → Reader α
  | _, .string expecting take _, _, cs => stringWith expecting take cs
  | _, .bool, _, cs => boolean cs
  | _, .natural name bound, _, cs => numberWith name (naturalOf name bound) cs
  | _, .integer, _, cs => numberWith "i64" integerOf cs
  | _, .choice options name, _, cs => label (choiceOf options name) cs
  | _, .option s, depth, cs =>
    match skipSpace cs with
    | 'n' :: r => (word "ull".toList r).map fun p => (none, p.2)
    | cs => (s.read depth cs).map fun p => (some p.1, p.2)
  | _, .list s, depth, cs =>
    match skipSpace cs with
    | [] => stopAt .endInValue [] 0
    | '[' :: r =>
      if depth ≤ 1 then stopSeeing .tooDeep ('[' :: r)
      else enclose closeList afterList
        (items (fun cs => s.read (depth - 1) cs) (r.length + 1) true r)
    | cs => unexpected "a sequence" cs
  | _, .record name members, depth, cs =>
    match skipSpace cs with
    | [] => stopAt .endInValue [] 0
    | '[' :: r =>
      if depth ≤ 1 then stopSeeing .tooDeep ('[' :: r)
      else enclose closeList afterList
        (members.readItems (depth - 1) (recordOf s!"struct {name}" members.count) 0 r)
    | '\x7b' :: r =>
      if depth ≤ 1 then stopSeeing .tooDeep ('\x7b' :: r)
      else enclose closeObject afterObject do
        let (slots, cs) ←
          readMembers (fun key slots cs => members.accept (depth - 1) key slots cs) (r.length + 1)
            true members.unread r
        match members.finish slots with
        | .ok x => .ok (x, cs)
        | .error message => .error (complaint message cs)
    | cs => unexpected s!"struct {name}" cs
  | _, .refine s take _, depth, cs => do
    let (x, cs) ← s.read depth cs
    match take x with
    | .ok y => .ok (y, cs)
    | .error message => .error (complaint message cs)
  | _, .either name s t, depth, cs => do
    let (v, cs) ← value depth cs
    match (Shape.either name s t).ofValue v with
    | .ok x => .ok (x, cs)
    | .error message => .error (complaint message cs)

/-- The members as items of a list in order, item `i` being the next. -/
def Members.readItems : {α σ : Type} → Members α σ → (depth : Nat) → (whole : String) →
    (i : Nat) → Reader α
  | _, _, .nil, _, _, _, cs => .ok ((), cs)
  | _, _, .cons _ s absent _ rest, depth, whole, i, cs => do
    let (more, cs) ← moreItems (i == 0) cs
    if more then
      let (x, cs) ← s.read depth cs
      let (xs, cs) ← rest.readItems depth whole (i + 1) cs
      return ((x, xs), cs)
    else
      match absent with
      | some x =>
        let (xs, cs) ← rest.readItems depth whole (i + 1) cs
        return ((x, xs), cs)
      | none => .error (complaint (wrongLength i whole) cs)

/-- Takes in one member of an object, after its key. -/
def Members.accept : {α σ : Type} → Members α σ → (depth : Nat) → String → σ → Reader σ
  | _, _, .nil, _, _, slots, cs => do
    let ((), cs) ← colon cs
    let ((), cs) ← skip cs
    return (slots, cs)
  | _, _, .cons key s _ _ rest, depth, k, (slot, slots), cs =>
    if key = k then
      match slot with
      | some _ => .error (complaint (duplicateMember key) cs)
      | none => do
        let ((), cs) ← colon cs
        let (x, cs) ← s.read depth cs
        return ((some x, slots), cs)
    else do
      let (slots, cs) ← rest.accept depth k slots cs
      return ((slot, slots), cs)

end

/-- The data of a shape that a text holds. -/
def Shape.parse {α : Type} (s : Shape α) (text : String) : Except Fault α := do
  let (x, rest) ← s.read maxDepth text.toList
  endOfText rest
  return x

end AccountRegistry
