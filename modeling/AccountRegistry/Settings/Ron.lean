import AccountRegistry.Json.Lexeme
import AccountRegistry.Settings.Toml

/-! # Records as settings

The RON format: records in parentheses with the names of their members, maps in braces, lists in
brackets, and options.
-/

namespace AccountRegistry.Ron

open Json

/-- Reads something from the head of a text. -/
abbrev Part (α : Type) := List Char → Option (α × List Char)

def isSpace (c : Char) : Bool :=
  "\t\n\r ".toList.contains c
    || [0x0B, 0x0C, 0x85, 0x200E, 0x200F, 0x2028, 0x2029].contains c.toNat

/-- The text after a comment that may hold others; `depth` of them are open around it. -/
def afterComment : (depth : Nat) → List Char → Option (List Char)
  | depth, '/' :: '*' :: cs => afterComment (depth + 1) cs
  | 0, '*' :: '/' :: cs => some cs
  | depth + 1, '*' :: '/' :: cs => afterComment depth cs
  | depth, _ :: cs => afterComment depth cs
  | _, [] => none

/-- Blanks and comments; `none` if a comment does not end. -/
def skip : Nat → List Char → Option (List Char)
  | 0, _ => none
  | fuel + 1, cs =>
    match cs.dropWhile isSpace with
    | '/' :: '/' :: cs => skip fuel (cs.dropWhile (· != '\n'))
    | '/' :: '*' :: cs => do skip fuel (← afterComment 0 cs)
    | cs => some cs

def gap (cs : List Char) : Option (List Char) := skip (cs.length + 1) cs

/-! ## Texts, names and numbers -/

/-- The hexadecimal digits up to a closing brace, as a character. -/
def bracedScalar (cs : List Char) : Option (Char × List Char) := do
  let digits := cs.takeWhile (· != '\x7d')
  if digits.isEmpty || 6 < digits.length then none
  let (c, _) ← Toml.scalar 8 (List.replicate (8 - digits.length) '0' ++ digits)
  return (c, (cs.dropWhile (· != '\x7d')).drop 1)

/-- What an escape stands for, after its backslash. -/
def escape : Part Char
  | 'x' :: a :: b :: cs => (hexQuad? '0' '0' a b).map fun n => (Char.ofNat n, cs)
  | 'u' :: '\x7b' :: cs => bracedScalar cs
  | '\'' :: cs => some ('\'', cs)
  | '"' :: cs => some ('"', cs)
  | '\\' :: cs => some ('\\', cs)
  | 'n' :: cs => some ('\n', cs)
  | 'r' :: cs => some ('\r', cs)
  | 't' :: cs => some ('\t', cs)
  | '0' :: cs => some (Char.ofNat 0, cs)
  | _ => none

/-- The rest of a text whose opening mark has been read. -/
def textBody (done : List Char) : Nat → Part String
  | 0, _ => none
  | _, [] => none
  | _, '"' :: cs => some (String.ofList done.reverse, cs)
  | fuel + 1, '\\' :: cs => do
    let (x, cs) ← escape cs
    textBody (x :: done) fuel cs
  | fuel + 1, c :: cs => textBody (c :: done) fuel cs

/-- A text without escapes, after its first letter: it ends at a mark with as many number signs as
stand before its opening mark. -/
def rawText : Part String := fun cs => do
  let signs := cs.takeWhile (· == '#')
  let cs ← Text.stripStart? ['"'] (cs.drop signs.length)
  let (s, cs) ← Text.splitFirst? ('"' :: signs) cs
  return (String.ofList s, cs)

/-- One character between apostrophes. -/
def character : Part String := fun cs => do
  let (c, cs) ← match cs with
    | '\\' :: cs => escape cs
    | c :: cs => some (c, cs)
    | [] => none
  return (c.toString, ← Text.stripStart? ['\''] cs)

def isNameStart (c : Char) : Bool := c.isAlpha || c == '_'

def isNameChar (c : Char) : Bool := c.isAlphanum || c == '_'

/-- A name, which may be marked as one. -/
def name : Part String := fun cs =>
  let cs := (Text.stripStart? "r#".toList cs).getD cs
  match cs with
  | c :: _ =>
    if isNameStart c then some (String.ofList (cs.takeWhile isNameChar), cs.dropWhile isNameChar)
    else none
  | [] => none

/-- An integer to another base. -/
def based? (sign : List Char) (base : Nat) (digits : List Char) : Option Value := do
  match ← Toml.based? base digits with
  | .number (.natural n) => some (.ofInt (if sign = ['-'] then -n else n))
  | v => some v

def isNumberChar (c : Char) : Bool := c.isAlphanum || "+-._".toList.contains c

/-- An integer or a floating-point number; underscores between digits do not count. -/
def number : Part Value := fun cs => do
  let word := cs.takeWhile isNumberChar
  let (sign, body) := Toml.signOf word
  if body.head? == some '_' then none
  let body := body.filter (· != '_')
  let v ← match body with
    | '0' :: 'x' :: ds => based? sign 16 ds
    | '0' :: 'b' :: ds => based? sign 2 ds
    | '0' :: 'o' :: ds => based? sign 8 ds
    | body =>
      match Decimal.integer64? (sign ++ body) with
      | some n => some (.ofInt n)
      | none =>
        if body.any Char.isDigit then
          (Decimal.float? (sign ++ body)).map fun x => .number (.float x)
        else none
  return (v, cs.drop word.length)

/-! ## Values -/

/-- Whether a parenthesis opens a record: a name and a colon follow. -/
def opensRecord (cs : List Char) : Bool :=
  match (name cs).bind fun p => gap p.2 with
  | some (':' :: cs) => cs.head? != some ':'
  | _ => false

/-- The text of a key. -/
def keyText : Value → Option String
  | .string s => some s
  | _ => none

/-- The rest of a list of entries up to its closing mark; commas stand between them. -/
def entries {α : Type} (close : Char) (entry : Part α) : Nat → Part (List α)
  | 0, _ => none
  | fuel + 1, cs =>
    match cs with
    | [] => none
    | c :: r =>
      if c = close then some ([], r)
      else do
        let (x, cs) ← entry (c :: r)
        match ← gap cs with
        | ',' :: cs =>
          let (xs, cs) ← entries close entry fuel (← gap cs)
          return (x :: xs, cs)
        | d :: cs => if d = close then return ([x], cs) else none
        | [] => none

/-- A key and a value with a colon between them. -/
def pair {κ : Type} (key : Part κ) (value : Part Value) : Part (κ × Value) := fun cs => do
  let (k, cs) ← key cs
  let cs ← Text.stripStart? [':'] (← gap cs)
  let (v, cs) ← value (← gap cs)
  return ((k, v), cs)

/-- A value; a name before a parenthesis is the name of a record and does not count. -/
def value : Nat → Part Value
  | 0, _ => none
  | fuel + 1, cs =>
    let tuple (cs : List Char) : Option (Value × List Char) := do
      let cs ← gap cs
      if opensRecord cs then
        let (ms, cs) ← entries ')' (pair name (value fuel)) (cs.length + 1) cs
        return (.object ms, cs)
      else
        let (vs, cs) ← entries ')' (value fuel) (cs.length + 1) cs
        return (if vs.isEmpty then .null else .array vs, cs)
    match cs with
    | '(' :: cs => tuple cs
    | '[' :: cs => do
      let (vs, cs) ← entries ']' (value fuel) (cs.length + 1) (← gap cs)
      return (.array vs, cs)
    | '\x7b' :: cs => do
      let (ms, cs) ← entries '\x7d' (pair (value fuel) (value fuel)) (cs.length + 1) (← gap cs)
      return (.object (← ms.mapM fun (k, v) => (keyText k).map fun k => (k, v)), cs)
    | '"' :: cs => (textBody [] (cs.length + 1) cs).map fun p => (.string p.1, p.2)
    | '\'' :: cs => (character cs).map fun p => (.string p.1, p.2)
    | cs =>
      match if cs.head? == some 'r' then rawText (cs.drop 1) else none with
      | some (s, cs) => some (.string s, cs)
      | none =>
        match name cs with
        | none => number cs
        | some (n, rest) =>
          if n = "true" then some (.bool true, rest)
          else if n = "false" then some (.bool false, rest)
          else if n = "None" then some (.null, rest)
          else if n = "inf" then some (.number (.float (1.0 / 0.0)), rest)
          else if n = "NaN" then some (.number (.float (0.0 / 0.0)), rest)
          else do
            match ← gap rest with
            | '(' :: cs =>
              if n = "Some" then
                let (v, cs) ← value fuel (← gap cs)
                let cs ← gap cs
                let cs := (Text.stripStart? [','] cs).getD cs
                return (v, ← Text.stripStart? [')'] (← gap cs))
              else tuple cs
            | _ => if n = "Some" then none else some (.null, rest)

/-- Switches of the format at the start of a text, which do not concern settings. -/
def afterSwitches : Nat → List Char → Option (List Char)
  | 0, cs => some cs
  | fuel + 1, cs =>
    match Text.stripStart? "#![enable(".toList cs with
    | none => some cs
    | some cs => do
      let cs ← Text.stripStart? ")]".toList (cs.dropWhile (· != ')'))
      afterSwitches fuel (← gap cs)

/-- The table that a text holds. -/
def parse (s : String) : Option (List (String × Value)) := do
  let cs ← afterSwitches s.length (← gap s.toList)
  let (v, rest) ← value (cs.length + 1) cs
  match v.canonical, ← gap rest with
  | .object ms, [] => some ms
  | _, _ => none

end AccountRegistry.Ron
