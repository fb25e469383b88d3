import AccountRegistry.Json.Basic
import AccountRegistry.Json.Fault

/-! # Lexemes of JSON

Blanks, words, strings and numbers at the head of a text. The unread rest of the text is the whole
state of a reader.
-/

namespace AccountRegistry.Json

/-- Reads something from the head of a text. -/
abbrev Reader (α : Type) := List Char → Except Fault (α × List Char)

/-- Stops where nothing of `rest` has been read. -/
def stopAt {α : Type} (cause : Cause) (rest : List Char) (ahead : Nat) : Except Fault α :=
  .error ⟨cause, rest, some (.unread rest ahead)⟩

/-- Stops at the next byte, which is seen but not read. -/
def stopSeeing {α : Type} (cause : Cause) (rest : List Char) : Except Fault α := stopAt cause rest 1

def isSpace (c : Char) : Bool := c == ' ' || c == '\n' || c == '\t' || c == '\r'

def skipSpace (cs : List Char) : List Char := cs.dropWhile isSpace

/-- The rest of a word whose first letter has been read. -/
def word : List Char → Reader Unit
  | [], cs => .ok ((), cs)
  | _ :: _, [] => stopAt .endInValue [] 0
  | e :: es, c :: cs => if c = e then word es cs else stopAt .expectedWord (c :: cs) 1

/-! ## Strings -/

def hexValue? (c : Char) : Option Nat :=
  if '0' ≤ c ∧ c ≤ '9' then some (c.toNat - 48)
  else if 'a' ≤ c ∧ c ≤ 'f' then some (c.toNat - 87)
  else if 'A' ≤ c ∧ c ≤ 'F' then some (c.toNat - 55)
  else none

def hexQuad? (a b c d : Char) : Option Nat :=
  match hexValue? a, hexValue? b, hexValue? c, hexValue? d with
  | some a, some b, some c, some d => some (((a * 16 + b) * 16 + c) * 16 + d)
  | _, _, _, _ => none

/-- Why no four hexadecimal digits stand at the head of a text. -/
def noHexQuad {α : Type} (rest : List Char) : Except Fault α :=
  if (Text.Utf8.encode rest).length < 4 then stopAt .endInString [] 0
  else stopAt .invalidEscape rest 4

/-- What a one-letter escape stands for. -/
def shortEscape? (c : Char) : Option Char :=
  if c = '"' then some '"'
  else if c = '\\' then some '\\'
  else if c = '/' then some '/'
  else if c = 'b' then some (Char.ofNat 8)
  else if c = 'f' then some (Char.ofNat 12)
  else if c = 'n' then some '\n'
  else if c = 'r' then some '\r'
  else if c = 't' then some '\t'
  else none

def isHighSurrogate (n : Nat) : Bool := 0xD800 ≤ n && n ≤ 0xDBFF

def isLowSurrogate (n : Nat) : Bool := 0xDC00 ≤ n && n ≤ 0xDFFF

def surrogatePair (high low : Nat) : Char :=
  Char.ofNat ((high - 0xD800) * 0x400 + (low - 0xDC00) + 0x10000)

/-- Why no second surrogate stands at the head of a text. -/
def noLowSurrogate {α : Type} : List Char → Except Fault α
  | [] => stopAt .endInString [] 0
  | c :: cs =>
    if c = '\\' then
      match cs with
      | [] => stopAt .endInString [] 0
      | u :: rest => if u = 'u' then noHexQuad rest else stopSeeing .endOfHexEscape (u :: rest)
    else stopSeeing .endOfHexEscape (c :: cs)

/-- The rest of a string whose opening quote has been read; `done` is its text so far, backwards. -/
def stringBody (done : List Char) : Reader String
  | [] => stopAt .endInString [] 0
  | '"' :: cs => .ok (String.ofList done.reverse, cs)
  | '\\' :: cs =>
    match cs with
    | [] => stopAt .endInString [] 0
    | 'u' :: r =>
      match r with
      | a :: b :: c :: d :: r =>
        match hexQuad? a b c d with
        | none => stopAt .invalidEscape (a :: b :: c :: d :: r) 4
        | some n =>
          if isLowSurrogate n then stopAt .loneSurrogate r 0
          else if isHighSurrogate n then
            match r with
            | '\\' :: 'u' :: e :: f :: g :: h :: r =>
              match hexQuad? e f g h with
              | none => stopAt .invalidEscape (e :: f :: g :: h :: r) 4
              | some m =>
                if isLowSurrogate m then stringBody (surrogatePair n m :: done) r
                else stopAt .loneSurrogate r 0
            | r => noLowSurrogate r
          else stringBody (Char.ofNat n :: done) r
      | r => noHexQuad r
    | e :: r =>
      match shortEscape? e with
      | some c => stringBody (c :: done) r
      | none => stopAt .invalidEscape (e :: r) 1
  | c :: cs =>
    if c.toNat < 32 then stopAt .controlCharacter (c :: cs) 1 else stringBody (c :: done) cs

/-! ## Numbers -/

/-- Adds decimal digits while the number fits 64 bits; what does not fit is left over. -/
def absorb (n : Nat) : List Char → Nat × List Char
  | [] => (n, [])
  | c :: cs =>
    let m := n * 10 + (c.toNat - 48)
    if m < UInt64.size then absorb m cs else (n, c :: cs)

def digitsOf (cs : List Char) : List Char := cs.takeWhile Char.isDigit

def afterDigits (cs : List Char) : List Char := cs.dropWhile Char.isDigit

/-- Powers of ten that a double holds. -/
def powerOfTen? (n : Nat) : Option Float :=
  if n ≤ 308 then some (Float.ofScientific 1 false n) else none

/-- `x` scaled by a power of ten in one rounding, or in steps of 308 below that; `none` when the
result is too large. -/
def scale? : Nat → Float → Int → Option Float
  | 0, x, _ => some x
  | fuel + 1, x, e =>
    match powerOfTen? e.natAbs with
    | some p =>
      if 0 ≤ e then
        let y := x * p
        if y.isInf then none else some y
      else some (x / p)
    | none =>
      if x == 0.0 then some x
      else if 0 ≤ e then none
      else scale? fuel (x / 1e308) (e + 308)

def signed (positive : Bool) (x : Float) : Float := if positive then x else -x

def floatOfParts (positive : Bool) (significand : Nat) (exponent : Int) : Reader Float := fun cs =>
  match scale? 8 (UInt64.ofNat significand).toFloat exponent with
  | some x => .ok (signed positive x, cs)
  | none => stopAt .numberOutOfRange cs 0

/-- The digits of an exponent up to the first that makes it too large. -/
def exponentDigits (n : Nat) : List Char → Option Nat × List Char
  | [] => (some n, [])
  | c :: cs =>
    if c.isDigit then
      let m := n * 10 + (c.toNat - 48)
      if m ≤ 2147483647 then exponentDigits m cs else (none, cs)
    else (some n, c :: cs)

/-- The exponent part after its letter. -/
def exponentPart (positive : Bool) (significand : Nat) (start : Int) : Reader Float := fun cs =>
  let (down, cs) : Bool × List Char := match cs with
    | '+' :: r => (false, r)
    | '-' :: r => (true, r)
    | r => (false, r)
  match cs with
  | [] => stopAt .endInValue [] 0
  | c :: r =>
    if c.isDigit then
      match exponentDigits (c.toNat - 48) r with
      | (some e, r) => floatOfParts positive significand (if down then start - e else start + e) r
      | (none, r) =>
        if significand ≠ 0 && !down then stopAt .numberOutOfRange r 0
        else .ok (signed positive 0.0, afterDigits r)
    else stopAt .invalidNumber (c :: r) 1

def isExponentMark (c : Char) : Bool := c == 'e' || c == 'E'

/-- The fraction after its point, and the exponent part if there is one. -/
def fractionPart (positive : Bool) (significand : Nat) (start : Int) : Reader Float := fun cs =>
  let digits := digitsOf cs
  let rest := afterDigits cs
  if digits.isEmpty then
    match cs with
    | [] => stopAt .endInValue [] 0
    | cs => stopSeeing .invalidNumber cs
  else
    let (significand, excess) := absorb significand digits
    let exponent := start - (digits.length - excess.length : Nat)
    match rest with
    | c :: r =>
      if isExponentMark c then exponentPart positive significand exponent r
      else floatOfParts positive significand exponent (c :: r)
    | [] => floatOfParts positive significand exponent []

def toFloat (r : Except Fault (Float × List Char)) : Except Fault (Number × List Char) :=
  r.map fun p => (.float p.1, p.2)

/-- What follows the integer part; `excess` counts its digits that did not fit. -/
def numberTail (positive : Bool) (significand excess : Nat) : Reader Number := fun cs =>
  match cs with
  | '.' :: r => toFloat (fractionPart positive significand excess r)
  | 'e' :: r | 'E' :: r => toFloat (exponentPart positive significand excess r)
  | cs =>
    if excess ≠ 0 then toFloat (floatOfParts positive significand excess cs)
    else if positive then .ok (.natural significand, cs)
    else if 0 < significand && significand ≤ UInt64.size / 2 then .ok (.negative significand, cs)
    else .ok (.float (-(UInt64.ofNat significand).toFloat), cs)

/-- A number whose sign has been read. -/
def numberBody (positive : Bool) : Reader Number
  | [] => stopAt .endInValue [] 0
  | '0' :: cs =>
    match cs with
    | c :: _ => if c.isDigit then stopSeeing .invalidNumber cs else numberTail positive 0 0 cs
    | [] => numberTail positive 0 0 []
  | c :: cs =>
    if c.isDigit then
      let (significand, excess) := absorb 0 (digitsOf (c :: cs))
      numberTail positive significand excess.length (afterDigits (c :: cs))
    else stopAt .invalidNumber (c :: cs) 1

end AccountRegistry.Json
