import AccountRegistry.Decimal.Plain
import AccountRegistry.Json.Basic
import AccountRegistry.Text.Split
import AccountRegistry.Time.Reading

/-! # TOML

A document is a list of lines: headers, which name the table that follows, and pairs of keys and
values. A table is defined at most once, and a key at most once in its table.
-/

namespace AccountRegistry.Toml

open Json

/-- Reads something from the head of a text. -/
abbrev Part (α : Type) := List Char → Option (α × List Char)

/-! ## Blanks, comments and keys -/

def isBlankChar (c : Char) : Bool := c == ' ' || c == '\t'

def skipBlanks (cs : List Char) : List Char := cs.dropWhile isBlankChar

/-- Characters that stand for themselves in comments and texts. -/
def isPlainChar (c : Char) : Bool := c == '\t' || (0x20 ≤ c.toNat && c.toNat != 0x7F)

/-- The end of a line, if there is one. -/
def lineEnd? : List Char → Option (List Char)
  | '\n' :: cs => some cs
  | '\r' :: '\n' :: cs => some cs
  | _ => none

def skipComment : List Char → List Char
  | '#' :: cs => cs.dropWhile isPlainChar
  | cs => cs

/-- Blanks, comments and ends of lines. -/
def skipLines : Nat → List Char → List Char
  | 0, cs => cs
  | fuel + 1, cs =>
    let cs := skipComment (skipBlanks cs)
    match lineEnd? cs with
    | some rest => skipLines fuel rest
    | none => cs

def isBareChar (c : Char) : Bool := c.isAlphanum || c == '_' || c == '-'

/-- A scalar value of so many hexadecimal digits. -/
def scalar (width : Nat) (cs : List Char) : Option (Char × List Char) :=
  let ds := cs.take width
  let n := ds.foldl (fun n c => n * 16 + (if c.isDigit then c.toNat - 48
    else if c ≤ 'F' then c.toNat - 55 else c.toNat - 87)) 0
  let isHex (c : Char) : Bool := c.isDigit || ('a' ≤ c && c ≤ 'f') || ('A' ≤ c && c ≤ 'F')
  if ds.length = width && ds.all isHex && (n < 0xD800 || 0xDFFF < n) && n < 0x110000 then
    some (Char.ofNat n, cs.drop width)
  else none

/-- What an escape stands for, after its backslash. -/
def escape : Part Char
  | 'b' :: cs => some (Char.ofNat 8, cs)
  | 't' :: cs => some ('\t', cs)
  | 'n' :: cs => some ('\n', cs)
  | 'f' :: cs => some (Char.ofNat 12, cs)
  | 'r' :: cs => some ('\r', cs)
  | '"' :: cs => some ('"', cs)
  | '\\' :: cs => some ('\\', cs)
  | 'u' :: cs => scalar 4 cs
  | 'U' :: cs => scalar 8 cs
  | _ => none

/-- A text on one line, after its opening mark; `escapes` says whether backslashes are special. -/
def lineText (mark : Char) (escapes : Bool) (done : List Char) : Nat → Part String
  | 0, _ => none
  | _, [] => none
  | fuel + 1, c :: cs =>
    if c = mark then some (String.ofList done.reverse, cs)
    else if c = '\\' && escapes then do
      let (x, cs) ← escape cs
      lineText mark escapes (x :: done) fuel cs
    else if isPlainChar c then lineText mark escapes (c :: done) fuel cs
    else none

/-- Blanks up to the next line, then all blanks and empty lines: what a backslash at the end of a
line joins. -/
def joinedLines (cs : List Char) : Option (List Char) :=
  (lineEnd? (skipBlanks cs)).map fun rest =>
    rest.dropWhile fun c => isBlankChar c || c == '\n' || c == '\r'

/-- A text over several lines, after its opening marks. Up to two marks may stand right before the
closing ones. -/
def blockText (mark : Char) (escapes : Bool) (done : List Char) : Nat → Part String
  | 0, _ => none
  | _, [] => none
  | fuel + 1, c :: cs =>
    if c = mark then
      match cs with
      | d :: e :: rest =>
        if d = mark ∧ e = mark then
          let extra := (rest.takeWhile (· == mark)).take 2
          some (String.ofList (done.reverse ++ extra), rest.drop extra.length)
        else blockText mark escapes (c :: done) fuel (d :: e :: rest)
      | _ => none
    else if c = '\\' && escapes then
      match joinedLines cs with
      | some rest => blockText mark escapes done fuel rest
      | none => do
        let (x, cs) ← escape cs
        blockText mark escapes (x :: done) fuel cs
    else match lineEnd? (c :: cs) with
      | some rest => blockText mark escapes ('\n' :: done) fuel rest
      | none => if isPlainChar c then blockText mark escapes (c :: done) fuel cs else none

/-- A text of any form, its opening marks included. -/
def text : Part String
  | '"' :: '"' :: '"' :: cs => blockText '"' true [] (cs.length + 1) ((lineEnd? cs).getD cs)
  | '\'' :: '\'' :: '\'' :: cs => blockText '\'' false [] (cs.length + 1) ((lineEnd? cs).getD cs)
  | '"' :: cs => lineText '"' true [] (cs.length + 1) cs
  | '\'' :: cs => lineText '\'' false [] (cs.length + 1) cs
  | _ => none

/-- One name of a key. -/
def name : Part String
  | '"' :: cs => lineText '"' true [] (cs.length + 1) cs
  | '\'' :: cs => lineText '\'' false [] (cs.length + 1) cs
  | cs =>
    let bare := cs.takeWhile isBareChar
    if bare.isEmpty then none else some (String.ofList bare, cs.dropWhile isBareChar)

/-- A key: names with dots between them. -/
def key : Nat → Part (List String)
  | 0, _ => none
  | fuel + 1, cs => do
    let (n, cs) ← name (skipBlanks cs)
    match skipBlanks cs with
    | '.' :: cs => do
      let (ns, cs) ← key fuel cs
      return (n :: ns, cs)
    | cs => return ([n], cs)

/-! ## Plain values -/

/-- Digits between which single underscores may stand, without the underscores. -/
def digits? (isDigit : Char → Bool) (cs : List Char) : Option (List Char) :=
  let parts := (String.ofList cs).splitOn "_"
  if parts.all fun p => !p.isEmpty && p.toList.all isDigit then some (cs.filter (· != '_'))
  else none

/-- The digits of a decimal number, without needless zeros in front. -/
def decimal? (cs : List Char) : Option (List Char) := do
  let ds ← digits? Char.isDigit cs
  if ds.length > 1 && ds.head? == some '0' then none else some ds

def signOf : List Char → List Char × List Char
  | '+' :: cs => ([], cs)
  | '-' :: cs => (['-'], cs)
  | cs => ([], cs)

/-- A number to another base, after its mark. -/
def based? (base : Nat) (cs : List Char) : Option Value := do
  let isDigit (c : Char) : Bool := (c.isDigit || ('a' ≤ c.toLower && c.toLower ≤ 'f'))
    && (if c.isDigit then c.toNat - 48 else c.toLower.toNat - 87) < base
  let ds ← digits? isDigit cs
  let n := ds.foldl (fun n c =>
    n * base + (if c.isDigit then c.toNat - 48 else c.toLower.toNat - 87)) 0
  if n < UInt64.size / 2 then some (.ofInt n) else none

def integer? (cs : List Char) : Option Value :=
  match cs with
  | '0' :: 'x' :: ds => based? 16 ds
  | '0' :: 'o' :: ds => based? 8 ds
  | '0' :: 'b' :: ds => based? 2 ds
  | cs => do
    let (sign, cs) := signOf cs
    let n ← Decimal.integer64? (sign ++ (← decimal? cs))
    return .ofInt n

/-- The exponent of a floating-point number, its mark included. -/
def exponent? : List Char → Option (List Char)
  | [] => some []
  | mark :: cs =>
    if mark = 'e' ∨ mark = 'E' then
      let (sign, cs) := signOf cs
      (digits? Char.isDigit cs).map fun ds => 'e' :: sign ++ ds
    else none

def float? (cs : List Char) : Option Value := do
  let (sign, body) := signOf cs
  if body = "inf".toList ∨ body = "nan".toList then
    (Decimal.float? (sign ++ body)).map fun x => .number (.float x)
  else
    let isPart (c : Char) : Bool := c.isDigit || c == '_'
    let whole ← decimal? (body.takeWhile isPart)
    let fraction ← match body.dropWhile isPart with
      | '.' :: r => (digits? Char.isDigit (r.takeWhile isPart)).map fun ds =>
          ('.' :: ds, r.dropWhile isPart)
      | [] => none
      | r => some ([], r)
    let e ← exponent? fraction.2
    let x ← Decimal.float? (sign ++ whole ++ fraction.1 ++ e)
    if x.isInf then none else some (.number (.float x))

/-! ## Dates and times -/

open Timestamp in
/-- A day of the calendar, as a text. -/
def day : Part String := fun cs => do
  let (y, cs) ← digits 4 cs
  let ((), cs) ← literal '-' cs
  let (m, cs) ← pair 1 12 cs
  let ((), cs) ← literal '-' cs
  let (d, cs) ← pair 1 31 cs
  if (Time.Date.mk y m d).Real then
    some (String.ofList (padded 4 y ++ '-' :: padded 2 m ++ '-' :: padded 2 d), cs)
  else none

open Timestamp in
/-- A time of day, as a text in which the fraction has no needless zeros. -/
def time : Part String := fun cs => do
  let ((h, m, s), cs) ← timeOfDay cs
  let (nano, cs) ← optionalFraction cs
  let text := padded 2 h ++ ':' :: padded 2 m ++ ':' :: padded 2 s ++ fractionText nano
  return (String.ofList text, cs)

open Timestamp in
/-- An offset from UTC, as a text; empty if there is none. -/
def zone : Part String := fun cs =>
  match cs with
  | 'Z' :: cs | 'z' :: cs => some ("Z", cs)
  | cs =>
    match sign cs with
    | none => some ("", cs)
    | some (negative, cs) => do
      let ((h, m), cs) ← hourMinute cs
      let mark := if negative && (h, m) != (0, 0) then '-' else '+'
      return (String.ofList (mark :: padded 2 h ++ ':' :: padded 2 m), cs)

/-- A date, a time, or both, as a text. -/
def moment : Part String := fun cs =>
  match day cs with
  | none => time cs
  | some (d, cs) =>
    let timed (rest : List Char) : Part String := fun _ => do
      let (t, rest) ← time rest
      let (z, rest) ← zone rest
      return (d ++ "T" ++ t ++ z, rest)
    match cs with
    | 'T' :: rest | 't' :: rest => timed rest cs
    | ' ' :: c :: rest => if c.isDigit then timed (c :: rest) cs else some (d, cs)
    | cs => some (d, cs)

/-- Characters of values that are not in quotation marks or brackets. -/
def isWordChar (c : Char) : Bool :=
  c.isAlphanum || c == '_' || c == '-' || c == '+' || c == '.' || c == ':'

/-- Whether nothing of a value is left over at the head of a text. -/
def ends (cs : List Char) : Bool :=
  match cs with
  | [] => true
  | c :: _ => !isWordChar c

/-- A switch, a number, a date or a time. -/
def plain : Part Value := fun cs =>
  match moment cs with
  | some (s, rest) => if ends rest then some (.string s, rest) else none
  | none =>
    let w := cs.takeWhile isWordChar
    let rest := cs.dropWhile isWordChar
    if w = "true".toList then some (.bool true, rest)
    else if w = "false".toList then some (.bool false, rest)
    else ((integer? w).orElse fun _ => float? w).map fun v => (v, rest)

/-! ## Tables under construction -/

/-- How a table came about. -/
inductive Origin
  /-- By a header. -/
  | header
  /-- As an outer table of a header. -/
  | implied
  /-- By a dotted key. -/
  | dotted
  deriving DecidableEq

inductive Node
  | value (v : Value)
  | table (origin : Origin) (members : List (String × Node))
  /-- Tables that follow each other under one header. -/
  | tables (items : List (List (String × Node)))

/-- The members of a table, and how it came about. -/
abbrev Draft := Origin × List (String × Node)

/-- Puts a member in the place of an older one, or behind all others. -/
def putNode (k : String) (n : Node) : List (String × Node) → List (String × Node)
  | [] => [(k, n)]
  | (k', n') :: rest => if k' = k then (k, n) :: rest else (k', n') :: putNode k n rest

/-- Changes the table at a path; `dotted` is set for the path of a key, which must not lead into
tables that have a header. -/
def atPath (dotted : Bool) (change : Draft → Option Draft) : List String → Draft → Option Draft
  | [], t => change t
  | k :: path, (origin, members) =>
    let put (n : Node) : Draft := (origin, putNode k n members)
    match member? k members with
    | none => do
      let (o, ms) ← atPath dotted change path (if dotted then .dotted else .implied, [])
      return put (.table o ms)
    | some (.value _) => none
    | some (.table o ms) =>
      if dotted && o == .header then none
      else do
        let (o, ms) ← atPath dotted change path (o, ms)
        return put (.table o ms)
    | some (.tables items) => do
      let (_, ms) ← atPath dotted change path (.header, items.getLast?.getD [])
      return put (.tables (items.dropLast ++ [ms]))

/-- Adds a value under a new key. -/
def addValue (path : List String) (v : Value) (t : Draft) : Option Draft :=
  match path.getLast? with
  | none => none
  | some k =>
    atPath true (fun (origin, members) =>
      if (path.length > 1 && origin != .dotted) || (member? k members).isSome then none
      else some (origin, members ++ [(k, .value v)])) path.dropLast t

/-- Starts the table of a header. -/
def startTable (path : List String) (t : Draft) : Option Draft :=
  match path.getLast? with
  | none => none
  | some k =>
    atPath false (fun (origin, members) =>
      match member? k members with
      | none => some (origin, members ++ [(k, .table .header [])])
      | some (.table .implied ms) => some (origin, putNode k (.table .header ms) members)
      | some _ => none) path.dropLast t

/-- Starts one more of the tables under a header. -/
def startItem (path : List String) (t : Draft) : Option Draft :=
  match path.getLast? with
  | none => none
  | some k =>
    atPath false (fun (origin, members) =>
      match member? k members with
      | none => some (origin, members ++ [(k, .tables [[]])])
      | some (.tables items) => some (origin, putNode k (.tables (items ++ [[]])) members)
      | some _ => none) path.dropLast t

mutual

def Node.finish : Node → Value
  | .value v => v
  | .table _ members => .object (finishMembers members)
  | .tables items => .array (finishItems items)

def finishMembers : List (String × Node) → List (String × Value)
  | [] => []
  | (k, n) :: rest => (k, n.finish) :: finishMembers rest

def finishItems : List (List (String × Node)) → List Value
  | [] => []
  | ms :: rest => .object (finishMembers ms) :: finishItems rest

end

/-! ## Values and documents -/

mutual

/-- A value of any form. -/
def value : Nat → Part Value
  | 0, _ => none
  | fuel + 1, cs =>
    match cs with
    | '[' :: cs => (items fuel true cs).map fun p => (.array p.1, p.2)
    | '\x7b' :: cs =>
      (pairs fuel true (.header, []) cs).map fun p => (.object (finishMembers p.1.2), p.2)
    | '"' :: _ | '\'' :: _ => (text cs).map fun p => (.string p.1, p.2)
    | cs => plain cs

/-- The items of an array up to its closing bracket. -/
def items : Nat → (first : Bool) → Part (List Value)
  | 0, _, _ => none
  | fuel + 1, first, cs =>
    match skipLines (cs.length + 1) cs, first with
    | ']' :: cs, _ => some ([], cs)
    | ',' :: cs, false => do
      match skipLines (cs.length + 1) cs with
      | ']' :: cs => return ([], cs)
      | cs =>
        let (v, cs) ← value fuel cs
        let (vs, cs) ← items fuel false cs
        return (v :: vs, cs)
    | cs, true => do
      let (v, cs) ← value fuel cs
      let (vs, cs) ← items fuel false cs
      return (v :: vs, cs)
    | _, false => none

/-- The pairs of a table in braces up to its closing brace. -/
def pairs : Nat → (first : Bool) → Draft → Part Draft
  | 0, _, _, _ => none
  | fuel + 1, first, t, cs =>
    match skipBlanks cs, first with
    | '\x7d' :: cs, _ => some (t, cs)
    | ',' :: cs, false => pair fuel t cs
    | cs, true => pair fuel t cs
    | _, false => none

/-- A pair in braces and all that follow it. -/
def pair : Nat → Draft → Part Draft
  | 0, _, _ => none
  | fuel + 1, t, cs => do
    let (path, cs) ← key (cs.length + 1) cs
    match cs with
    | '=' :: cs =>
      let (v, cs) ← value fuel (skipBlanks cs)
      pairs fuel false (← addValue path v t) cs
    | _ => none

end

/-- A document under construction: the table that the next pairs belong to, and all tables. -/
structure Document where
  current : List String
  root : Draft

def Document.empty : Document := ⟨[], (.header, [])⟩

/-- What stands on a line. -/
def line (d : Document) (cs : List Char) : Option (Document × List Char) :=
  match cs with
  | '[' :: '[' :: cs => do
    let (path, cs) ← key (cs.length + 1) cs
    let cs ← Text.stripStart? "]]".toList cs
    return (⟨path, ← startItem path d.root⟩, cs)
  | '[' :: cs => do
    let (path, cs) ← key (cs.length + 1) cs
    let cs ← Text.stripStart? "]".toList cs
    return (⟨path, ← startTable path d.root⟩, cs)
  | cs => do
    let (path, cs) ← key (cs.length + 1) cs
    let cs ← Text.stripStart? "=".toList cs
    let (v, cs) ← value (2 * cs.length + 2) (skipBlanks cs)
    return (⟨d.current, ← atPath false (addValue path v) d.current d.root⟩, cs)

/-- All lines of a document. -/
def lines : Nat → Document → List Char → Option Document
  | 0, _, _ => none
  | fuel + 1, d, cs =>
    match skipLines (cs.length + 1) cs with
    | [] => some d
    | cs => do
      let (d, cs) ← line d cs
      match skipComment (skipBlanks cs) with
      | [] => return d
      | cs => lines fuel d (← lineEnd? cs)

/-- The table that a text holds. -/
def parse (s : String) : Option (List (String × Value)) :=
  let cs := match s.toList with
    | '\uFEFF' :: cs => cs
    | cs => cs
  (lines (cs.length + 1) .empty cs).map fun d => finishMembers d.root.2

end AccountRegistry.Toml
