import AccountRegistry.Decimal.Plain
import AccountRegistry.Json.Lexeme
import AccountRegistry.Text.Blank
import AccountRegistry.Text.Split

/-! # JSON written by hand

The JSON5 format: JSON with comments, with commas after last entries, with keys that need no
quotation marks and with more ways to write texts and numbers.
-/

namespace AccountRegistry.Json5

open Json

/-- Reads something from the head of a text. -/
abbrev Part (α : Type) := List Char → Option (α × List Char)

def isLineEnd (c : Char) : Bool := c == '\n' || c == '\r' || c == '\u2028' || c == '\u2029'

def isSpace (c : Char) : Bool := (Text.isBlank c && c != '\u0085') || c == '\uFEFF'

/-- Blanks and comments; `none` if a comment does not end. -/
def skip : Nat → List Char → Option (List Char)
  | 0, _ => none
  | fuel + 1, cs =>
    match cs.dropWhile isSpace with
    | '/' :: '/' :: cs => skip fuel (cs.dropWhile fun c => !isLineEnd c)
    | '/' :: '*' :: cs => do skip fuel (← Text.splitFirst? "*/".toList cs).2
    | cs => some cs

def gap (cs : List Char) : Option (List Char) := skip (cs.length + 1) cs

/-! ## Texts and keys -/

/-- A unit of sixteen bits. -/
def hexUnit : Part Nat
  | a :: b :: c :: d :: cs => (hexQuad? a b c d).map fun n => (n, cs)
  | _ => none

/-- A character after the mark of a long escape; two surrogates make one character. -/
def longEscape : Part Char := fun cs => do
  let (n, cs) ← hexUnit cs
  if isLowSurrogate n then none
  else if isHighSurrogate n then
    let (m, cs) ← hexUnit (← Text.stripStart? "\\u".toList cs)
    if isLowSurrogate m then some (surrogatePair n m, cs) else none
  else some (Char.ofNat n, cs)

/-- What an escape stands for, after its backslash. Line ends are dropped, and characters without a
meaning of their own stand for themselves. -/
def escape : Part (List Char)
  | '\r' :: '\n' :: cs => some ([], cs)
  | 'u' :: cs => (longEscape cs).map fun p => ([p.1], p.2)
  | 'x' :: a :: b :: cs => (hexQuad? '0' '0' a b).map fun n => ([Char.ofNat n], cs)
  | 'v' :: cs => some ([Char.ofNat 11], cs)
  | '0' :: cs => some ([Char.ofNat 0], cs)
  | c :: cs =>
    if isLineEnd c then some ([], cs)
    else if c.isDigit || c == 'x' then none
    else some ([(shortEscape? c).getD c], cs)
  | [] => none

/-- The rest of a text whose opening mark has been read. -/
def textBody (mark : Char) (done : List Char) : Nat → Part String
  | 0, _ => none
  | _, [] => none
  | fuel + 1, c :: cs =>
    if c = mark then some (String.ofList done.reverse, cs)
    else if c = '\\' then do
      let (xs, cs) ← escape cs
      textBody mark (xs ++ done) fuel cs
    else if isLineEnd c then none
    else textBody mark (c :: done) fuel cs

def isNameStart (c : Char) : Bool := c.isAlpha || c == '$' || c == '_' || 0xA0 < c.toNat

def isNameChar (c : Char) : Bool := isNameStart c || c.isDigit

/-- A name without quotation marks. Every mark beyond ASCII that is no blank counts as a letter. -/
def nameChars (done : List Char) : Nat → List Char → Option (List Char × List Char)
  | 0, _ => none
  | _, [] => some (done, [])
  | fuel + 1, c :: cs =>
    if c = '\\' then do
      let (x, cs) ← longEscape (← Text.stripStart? ['u'] cs)
      nameChars (x :: done) fuel cs
    else if (if done.isEmpty then isNameStart c else isNameChar c) && !isSpace c then
      nameChars (c :: done) fuel cs
    else some (done, c :: cs)

def key : Part String
  | '"' :: cs => textBody '"' [] (cs.length + 1) cs
  | '\'' :: cs => textBody '\'' [] (cs.length + 1) cs
  | cs => do
    let (name, cs) ← nameChars [] (cs.length + 1) cs
    if name.isEmpty then none else some (String.ofList name.reverse, cs)

/-! ## Numbers -/

/-- The rest of a number to the base 16, which has at most 32 bits. -/
def hexNumber : Part Value := fun cs =>
  let digits := cs.takeWhile fun c => (hexValue? c).isSome
  let n := digits.foldl (fun n c => n * 16 + (hexValue? c).getD 0) 0
  if digits.isEmpty || UInt32.size ≤ n then none
  else some (.ofInt n, cs.drop digits.length)

/-- The exponent part at the head of a text, if there is one. -/
def exponent : List Char → List Char
  | mark :: cs =>
    let sign := match cs with
      | '+' :: _ => ['+']
      | '-' :: _ => ['-']
      | _ => []
    let digits := (cs.drop sign.length).takeWhile Char.isDigit
    if isExponentMark mark && !digits.isEmpty then mark :: sign ++ digits else []
  | [] => []

/-- A number to the base 10: an integer unless it has a point or an exponent part. -/
def decimal (sign : List Char) : Part Value := fun cs =>
  let whole := match cs with
    | '0' :: _ => ['0']
    | cs => cs.takeWhile Char.isDigit
  let fraction := match cs.drop whole.length with
    | '.' :: r => '.' :: r.takeWhile Char.isDigit
    | _ => []
  let e := exponent (cs.drop (whole.length + fraction.length))
  let rest := cs.drop (whole.length + fraction.length + e.length)
  if whole.isEmpty && fraction.length < 2 then none
  else if fraction.isEmpty && e.isEmpty then
    (Decimal.integer64? (sign ++ whole)).map fun n => (.ofInt n, rest)
  else do
    let x ← Decimal.float? (sign ++ whole ++ fraction ++ e)
    if x.isInf then none else some (.number (.float x), rest)

/-- Words for numbers that have no digits. -/
def wordNumber? (cs : List Char) : Option (Float × List Char) :=
  match Text.stripStart? "Infinity".toList cs with
  | some cs => some (1.0 / 0.0, cs)
  | none => (Text.stripStart? "NaN".toList cs).map fun cs => (0.0 / 0.0, cs)

def number : Part Value := fun cs =>
  let (sign, cs) : List Char × List Char := match cs with
    | '+' :: r => (['+'], r)
    | '-' :: r => (['-'], r)
    | r => ([], r)
  match wordNumber? cs with
  | some (x, cs) => some (.number (.float (if sign = ['-'] then -x else x)), cs)
  | none =>
    match cs with
    | '0' :: 'x' :: r | '0' :: 'X' :: r => if sign.isEmpty then hexNumber r else none
    | cs => decimal sign cs

/-! ## Values -/

mutual

def value : Nat → Part Value
  | 0, _ => none
  | fuel + 1, cs =>
    match cs with
    | '[' :: cs => do (items fuel (← gap cs)).map fun p => (.array p.1, p.2)
    | '\x7b' :: cs => do (members fuel (← gap cs)).map fun p => (.object p.1, p.2)
    | '"' :: cs => (textBody '"' [] (cs.length + 1) cs).map fun p => (.string p.1, p.2)
    | '\'' :: cs => (textBody '\'' [] (cs.length + 1) cs).map fun p => (.string p.1, p.2)
    | cs =>
      match Text.stripStart? "null".toList cs, Text.stripStart? "true".toList cs,
        Text.stripStart? "false".toList cs with
      | some cs, _, _ => some (.null, cs)
      | _, some cs, _ => some (.bool true, cs)
      | _, _, some cs => some (.bool false, cs)
      | _, _, _ => number cs

/-- Items up to a closing bracket. -/
def items : Nat → Part (List Value)
  | 0, _ => none
  | fuel + 1, cs =>
    match cs with
    | ']' :: cs => some ([], cs)
    | cs => do
      let (v, cs) ← value fuel cs
      match ← gap cs with
      | ',' :: cs =>
        let (vs, cs) ← items fuel (← gap cs)
        return (v :: vs, cs)
      | ']' :: cs => return ([v], cs)
      | _ => none

/-- Members up to a closing brace. -/
def members : Nat → Part (List (String × Value))
  | 0, _ => none
  | fuel + 1, cs =>
    match cs with
    | '\x7d' :: cs => some ([], cs)
    | cs => do
      let (k, cs) ← key cs
      let cs ← Text.stripStart? [':'] (← gap cs)
      let (v, cs) ← value fuel (← gap cs)
      match ← gap cs with
      | ',' :: cs =>
        let (ms, cs) ← members fuel (← gap cs)
        return ((k, v) :: ms, cs)
      | '\x7d' :: cs => return ([(k, v)], cs)
      | _ => none

end

/-- The table that a text holds. -/
def parse (s : String) : Option (List (String × Value)) := do
  let (v, rest) ← value (s.length + 1) (← gap s.toList)
  match v.canonical, ← gap rest with
  | .object ms, [] => some ms
  | _, _ => none

end AccountRegistry.Json5
