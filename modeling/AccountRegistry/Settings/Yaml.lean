import AccountRegistry.Settings.Toml

/-! # Indented settings

The part of YAML that settings need: mappings and lists by indentation or in brackets, with texts,
numbers and switches on one line.
-/

namespace AccountRegistry.Yaml

open Json

/-- Reads something from the head of a text. -/
abbrev Part (α : Type) := List Char → Option (α × List Char)

/-! ## Values on one line -/

def skipBlanks (cs : List Char) : List Char := cs.dropWhile (· == ' ')

/-- Whether nothing but a comment follows; `cs` begins a line or follows a blank. -/
def isEnd (cs : List Char) : Bool :=
  match cs with
  | [] => true
  | c :: _ => c == '#'

/-- Whether nothing but blanks and a comment follows a value. -/
def endsLine (cs : List Char) : Bool :=
  cs.isEmpty || (cs.head? == some ' ' && isEnd (skipBlanks cs))

/-- An integer to another base after its mark. -/
def based? (base : Nat) (cs : List Char) : Option Value :=
  if cs.contains '_' then none else Toml.based? base cs

/-- The value of a word without quotation marks. -/
def wordValue (cs : List Char) : Option Value :=
  let s := String.ofList cs
  if s = "" ∨ s = "~" ∨ s = "null" then some .null
  else if s = "true" then some (.bool true)
  else if s = "false" then some (.bool false)
  else
    let special := match cs with
      | '0' :: 'x' :: ds => based? 16 ds
      | '0' :: 'o' :: ds => based? 8 ds
      | cs => (Decimal.integer64? cs).map .ofInt
    match special with
    | some v => some v
    | none =>
      if [".inf", ".Inf", ".INF", "+.inf", "-.inf", ".nan", ".NaN", ".NAN"].contains s then none
      else if cs.any Char.isDigit then
        match Decimal.float? cs with
        | some x => some (.number (.float x))
        | none => some (.string s)
      else some (.string s)

/-- Characters with which a word does not begin. -/
def startsNoWord (c : Char) : Bool := ",[]\x7b\x7d#&*!|>'\"%@".toList.contains c || c.toNat == 0x60

/-- Whether a word ends before these characters; in brackets also at commas and brackets. -/
def wordEnds (inner : Bool) : List Char → Bool
  | [] => true
  | ':' :: c :: _ => c == ' ' || (inner && ",[]\x7b\x7d".toList.contains c)
  | [':'] => true
  | ' ' :: cs => isEnd (skipBlanks cs) && !(skipBlanks cs).isEmpty
  | c :: _ => inner && ",[]\x7b\x7d".toList.contains c

/-- The characters of a word, the last one first. -/
def wordChars (inner : Bool) (done : List Char) : List Char → List Char × List Char
  | [] => (done, [])
  | c :: cs => if wordEnds inner (c :: cs) then (done, c :: cs) else wordChars inner (c :: done) cs

/-- A word without quotation marks. -/
def word (inner : Bool) : Part (List Char) := fun cs =>
  match cs with
  | [] => none
  | c :: r =>
    if startsNoWord c
        || ((c == '-' || c == '?' || c == ':') && (r.isEmpty || r.head? == some ' ')) then
      none
    else
      let (done, rest) := wordChars inner [] (c :: r)
      some ((done.dropWhile (· == ' ')).reverse, rest)

/-- A text in single quotation marks, which are written twice inside it. -/
def singleQuoted (done : List Char) : Part String
  | [] => none
  | '\'' :: '\'' :: cs => singleQuoted ('\'' :: done) cs
  | '\'' :: cs => some (String.ofList done.reverse, cs)
  | c :: cs => singleQuoted (c :: done) cs

/-- A text in quotation marks. -/
def quoted : Part String
  | '"' :: cs => Toml.lineText '"' true [] (cs.length + 1) cs
  | '\'' :: cs => singleQuoted [] cs
  | _ => none

def scalar (inner : Bool) : Part Value := fun cs =>
  match cs with
  | '"' :: _ | '\'' :: _ => (quoted cs).map fun p => (.string p.1, p.2)
  | cs => do
    let (w, cs) ← word inner cs
    return (← wordValue w, cs)

/-- The text of a key. -/
def keyText : Value → Option String
  | .string s => some s
  | .bool b => some (if b then "true" else "false")
  | .number (.natural n) => some (toString n)
  | .number (.negative n) => some s!"-{n}"
  | _ => none

/-- A key with its colon. -/
def key (inner : Bool) : Part String := fun cs => do
  let (v, cs) ← scalar inner cs
  let k ← keyText v
  match skipBlanks cs with
  | [':'] => return (k, [])
  | ':' :: ' ' :: cs => return (k, skipBlanks cs)
  | _ => none

mutual

/-- A value on one line. -/
def value : Nat → (inner : Bool) → Part Value
  | 0, _, _ => none
  | fuel + 1, inner, cs =>
    match cs with
    | '[' :: cs => (items fuel cs).map fun p => (.array p.1, p.2)
    | '\x7b' :: cs => (members fuel cs).map fun p => (.object p.1, p.2)
    | cs => scalar inner cs

/-- Items up to a closing bracket. -/
def items : Nat → Part (List Value)
  | 0, _ => none
  | fuel + 1, cs =>
    match skipBlanks cs with
    | ']' :: cs => some ([], cs)
    | cs => do
      let (v, cs) ← value fuel true cs
      match skipBlanks cs with
      | ',' :: cs =>
        let (vs, cs) ← items fuel cs
        return (v :: vs, cs)
      | ']' :: cs => return ([v], cs)
      | _ => none

/-- Members up to a closing brace. -/
def members : Nat → Part (List (String × Value))
  | 0, _ => none
  | fuel + 1, cs =>
    match skipBlanks cs with
    | '\x7d' :: cs => some ([], cs)
    | cs => do
      let (k, cs) ← key true cs
      let (v, cs) ← value fuel true cs
      match skipBlanks cs with
      | ',' :: cs =>
        let (ms, cs) ← members fuel cs
        if (member? k ms).isSome then none
        return ((k, v) :: ms, cs)
      | '\x7d' :: cs => return ([(k, v)], cs)
      | _ => none

end

/-! ## Indentation -/

/-- A line with its indentation. -/
structure Line where
  indent : Nat
  chars : List Char

/-- The lines that hold more than blanks and comments; tabs do not indent. -/
def linesOf (s : String) : Option (List Line) :=
  let lines := (s.splitOn "\n").map fun l =>
    let cs := match l.toList.reverse with
      | '\r' :: r => r.reverse
      | r => r.reverse
    Line.mk (cs.takeWhile (· == ' ')).length (skipBlanks cs)
  let lines := lines.filter fun l => !isEnd l.chars
  if lines.any fun l => l.chars.head? == some '\t' then none else some lines

/-- What follows the dash of an item, if a line begins one, and its distance from the dash. -/
def item? : List Char → Option (Nat × List Char)
  | ['-'] => some (1, [])
  | '-' :: ' ' :: cs => some ((cs.takeWhile (· == ' ')).length + 2, skipBlanks cs)
  | _ => none

mutual

/-- A value that is indented by `least` or more; null if there is none. -/
def node : Nat → (least : Nat) → List Line → Option (Value × List Line)
  | 0, _, _ => none
  | _, _, [] => some (.null, [])
  | fuel + 1, least, l :: rest =>
    if l.indent < least then some (.null, l :: rest)
    else if (item? l.chars).isSome then
      (listAt fuel l.indent (l :: rest)).map fun p => (.array p.1, p.2)
    else if (key false l.chars).isSome then
      (mappingAt fuel l.indent [] (l :: rest)).map fun p => (.object p.1, p.2)
    else do
      let (v, cs) ← value (2 * l.chars.length + 2) false l.chars
      if endsLine cs then some (v, rest) else none

/-- The items at an indentation. -/
def listAt : Nat → (indent : Nat) → List Line → Option (List Value × List Line)
  | 0, _, _ => none
  | _, _, [] => some ([], [])
  | fuel + 1, indent, l :: rest =>
    if l.indent < indent then some ([], l :: rest)
    else if indent < l.indent then none
    else match item? l.chars with
      | none => some ([], l :: rest)
      | some (distance, cs) => do
        let inner := if isEnd cs then rest else ⟨indent + distance, cs⟩ :: rest
        let (v, rest) ← node fuel (indent + 1) inner
        let (vs, rest) ← listAt fuel indent rest
        return (v :: vs, rest)

/-- The members at an indentation; `done` are those before them. -/
def mappingAt : Nat → (indent : Nat) → (done : List (String × Value)) → List Line →
    Option (List (String × Value) × List Line)
  | 0, _, _, _ => none
  | _, _, done, [] => some (done, [])
  | fuel + 1, indent, done, l :: rest =>
    if l.indent < indent then some (done, l :: rest)
    else if indent < l.indent then none
    else do
      let (k, cs) ← key false l.chars
      if (member? k done).isSome then none
      let (v, rest) ← if isEnd cs then
          match rest with
          | next :: _ =>
            if next.indent = indent && (item? next.chars).isSome then
              (listAt fuel indent rest).map fun p => (Value.array p.1, p.2)
            else node fuel (indent + 1) rest
          | [] => some (.null, [])
        else do
          let (v, cs) ← value (2 * cs.length + 2) false cs
          if endsLine cs then some (v, rest) else none
      mappingAt fuel indent (done ++ [(k, v)]) rest

end

/-- The table that a text holds; a text without values holds an empty one. -/
def parse (s : String) : Option (List (String × Value)) := do
  let lines ← linesOf s
  let lines := match lines with
    | l :: rest => if l.chars = "---".toList then rest else l :: rest
    | [] => []
  match lines with
  | [] => return []
  | lines =>
    let (v, rest) ← node (4 * s.length + 4) 0 lines
    match v, rest with
    | .object ms, [] => return ms
    | _, _ => none

end AccountRegistry.Yaml
