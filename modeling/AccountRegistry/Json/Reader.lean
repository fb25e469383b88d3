import AccountRegistry.Json.Lexeme

/-! # Reading JSON texts

Lists and objects are read entry by entry, to a bounded depth.
-/

namespace AccountRegistry.Json

/-- Whether a list goes on; `first` before its first item. The closing bracket stays unread. -/
def moreItems (first : Bool) : Reader Bool := fun cs =>
  match skipSpace cs with
  | [] => stopAt .endInList [] 0
  | ']' :: r => .ok (false, ']' :: r)
  | c :: r =>
    if first then .ok (true, c :: r)
    else if c = ',' then
      match skipSpace r with
      | [] => stopAt .endInValue [] 0
      | ']' :: r => stopSeeing .trailingComma (']' :: r)
      | r => .ok (true, r)
    else stopSeeing .expectedItemEnd (c :: r)

/-- Whether an object goes on; then a quote is next. The closing brace stays unread. -/
def moreMembers (first : Bool) : Reader Bool := fun cs =>
  match skipSpace cs with
  | [] => stopAt .endInObject [] 0
  | '\x7d' :: r => .ok (false, '\x7d' :: r)
  | c :: r =>
    if first then if c = '"' then .ok (true, c :: r) else stopSeeing .keyNotString (c :: r)
    else if c = ',' then
      match skipSpace r with
      | [] => stopAt .endInValue [] 0
      | '"' :: r => .ok (true, '"' :: r)
      | '\x7d' :: r => stopSeeing .trailingComma ('\x7d' :: r)
      | r => stopSeeing .keyNotString r
    else stopSeeing .expectedMemberEnd (c :: r)

/-- The closing bracket of a list. -/
def closeList : Reader Unit := fun cs =>
  match skipSpace cs with
  | [] => stopAt .endInList [] 0
  | ']' :: r => .ok ((), r)
  | ',' :: r =>
    match skipSpace r with
    | ']' :: r => stopSeeing .trailingComma (']' :: r)
    | r => stopSeeing .trailingCharacters r
  | r => stopSeeing .trailingCharacters r

/-- The closing brace of an object. -/
def closeObject : Reader Unit := fun cs =>
  match skipSpace cs with
  | [] => stopAt .endInObject [] 0
  | '\x7d' :: r => .ok ((), r)
  | ',' :: r => stopSeeing .trailingComma (',' :: r)
  | r => stopSeeing .trailingCharacters r

def colon : Reader Unit := fun cs =>
  match skipSpace cs with
  | [] => stopAt .endInObject [] 0
  | ':' :: r => .ok ((), r)
  | r => stopSeeing .expectedColon r

/-- A key, whose opening quote is next. -/
def key : Reader String := fun cs => stringBody [] (cs.drop 1)

/-- The items of a list up to its closing bracket. Each item reads a character, so `fuel` above the
length of the text is never used up. -/
def items {α : Type} (item : Reader α) : Nat → Bool → Reader (List α)
  | 0, _, cs => stopSeeing .expectedValue cs
  | fuel + 1, first, cs => do
    let (more, cs) ← moreItems first cs
    if more then
      let (x, cs) ← item cs
      let (xs, cs) ← items item fuel false cs
      return (x :: xs, cs)
    else return ([], cs)

/-- The members of an object up to its closing brace. -/
def members {α : Type} (value : Reader α) : Nat → Bool → Reader (List (String × α))
  | 0, _, cs => stopSeeing .expectedValue cs
  | fuel + 1, first, cs => do
    let (more, cs) ← moreMembers first cs
    if more then
      let (k, cs) ← key cs
      let ((), cs) ← colon cs
      let (x, cs) ← value cs
      let (xs, cs) ← members value fuel false cs
      return ((k, x) :: xs, cs)
    else return ([], cs)

/-- A value in which lists and objects nest less than `depth` deep. -/
def value : Nat → Reader Value
  | 0, cs => stopSeeing .tooDeep cs
  | depth + 1, cs =>
    match skipSpace cs with
    | [] => stopAt .endInValue [] 0
    | 'n' :: r => (word "ull".toList r).map fun p => (.null, p.2)
    | 't' :: r => (word "rue".toList r).map fun p => (.bool true, p.2)
    | 'f' :: r => (word "alse".toList r).map fun p => (.bool false, p.2)
    | '-' :: r => (numberBody false r).map fun p => (.number p.1, p.2)
    | '"' :: r => (stringBody [] r).map fun p => (.string p.1, p.2)
    | '[' :: r =>
      if depth = 0 then stopSeeing .tooDeep ('[' :: r)
      else do
        let (xs, cs) ← items (value depth) (r.length + 1) true r
        let ((), cs) ← closeList cs
        return (.array xs, cs)
    | '\x7b' :: r =>
      if depth = 0 then stopSeeing .tooDeep ('\x7b' :: r)
      else do
        let (ms, cs) ← members (value depth) (r.length + 1) true r
        let ((), cs) ← closeObject cs
        return (.object ms, cs)
    | c :: r =>
      if c.isDigit then (numberBody true (c :: r)).map fun p => (.number p.1, p.2)
      else stopSeeing .expectedValue (c :: r)

/-- The depth to which a text may nest. -/
def maxDepth : Nat := 128

/-- The end of the text. -/
def endOfText (cs : List Char) : Except Fault Unit :=
  match skipSpace cs with
  | [] => .ok ()
  | r => stopSeeing .trailingCharacters r

def parseChars (cs : List Char) : Except Fault Value := do
  let (v, rest) ← value maxDepth cs
  endOfText rest
  return v

/-- The value that a text holds. -/
def parse (text : String) : Except Fault Value := parseChars text.toList

end AccountRegistry.Json
