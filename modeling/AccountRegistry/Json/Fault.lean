import AccountRegistry.Text.Split
import AccountRegistry.Text.Utf8

/-! # Faults of JSON texts

What stopped a reading, and where. A place is kept as the text that was still unread, from which
line and column follow.
-/

namespace AccountRegistry.Json

inductive Cause
  | endInList
  | endInObject
  | endInString
  | endInValue
  | expectedColon
  | expectedItemEnd
  | expectedMemberEnd
  | expectedWord
  | expectedValue
  | invalidEscape
  | invalidNumber
  | numberOutOfRange
  | controlCharacter
  | keyNotString
  | loneSurrogate
  | trailingComma
  | trailingCharacters
  | endOfHexEscape
  | tooDeep
  /-- The text is JSON but not of the shape asked for. -/
  | mismatch (message : String)

def Cause.message : Cause → String
  | .endInList => "EOF while parsing a list"
  | .endInObject => "EOF while parsing an object"
  | .endInString => "EOF while parsing a string"
  | .endInValue => "EOF while parsing a value"
  | .expectedColon => "expected `:`"
  | .expectedItemEnd => "expected `,` or `]`"
  | .expectedMemberEnd => "expected `,` or `\x7d`"
  | .expectedWord => "expected ident"
  | .expectedValue => "expected value"
  | .invalidEscape => "invalid escape"
  | .invalidNumber => "invalid number"
  | .numberOutOfRange => "number out of range"
  | .controlCharacter => "control character (\\u0000-\\u001F) found while parsing a string"
  | .keyNotString => "key must be a string"
  | .loneSurrogate => "lone leading surrogate in hex escape"
  | .trailingComma => "trailing comma"
  | .trailingCharacters => "trailing characters"
  | .endOfHexEscape => "unexpected end of hex escape"
  | .tooDeep => "recursion limit exceeded"
  | .mismatch message => message

inductive Place
  /-- So many bytes after the point where `rest` was unread. -/
  | unread (rest : List Char) (ahead : Nat)
  /-- A place that the message itself states. -/
  | stated (line column : Nat)

structure Fault where
  cause : Cause
  /-- What was unread when the fault arose. -/
  rest : List Char
  place : Option Place

/-- A fault gets a place unless it has one already. -/
def Fault.settle (f : Fault) (rest : List Char) : Fault :=
  match f.place with
  | some _ => f
  | none => { f with place := some (.unread rest 0) }

structure Position where
  line : Nat
  column : Nat
  deriving DecidableEq, Repr

/-- The position after one more character; columns count bytes. -/
def Position.after (p : Position) (c : Char) : Position :=
  if c = '\n' then ⟨p.line + 1, 0⟩ else ⟨p.line, p.column + (Text.Utf8.encodeChar c).length⟩

/-- The position `n` bytes further on, inside a character if need be. -/
def Position.ahead (p : Position) : Nat → List Char → Position
  | 0, _ => p
  | _ + 1, [] => p
  | n + 1, c :: rest =>
    let size := (Text.Utf8.encodeChar c).length
    if size ≤ n + 1 then (p.after c).ahead (n + 1 - size) rest
    else ⟨p.line, p.column + n + 1⟩

def positionIn (text rest : List Char) (ahead : Nat) : Position :=
  ((text.take (text.length - rest.length)).foldl Position.after ⟨1, 0⟩).ahead ahead rest

def Place.position (text : List Char) : Place → Position
  | .unread rest ahead => positionIn text rest ahead
  | .stated line column => ⟨line, column⟩

/-- The wording of a fault in a text. -/
def Fault.message (text : List Char) (f : Fault) : String :=
  match f.place.map (Place.position text) with
  | some p => if p.line = 0 then f.cause.message
    else s!"{f.cause.message} at line {p.line} column {p.column}"
  | none => f.cause.message

/-- A number of at most 64 bits made of ASCII digits only. -/
def wordOfDigits? (cs : List Char) : Option Nat :=
  if cs.isEmpty || !cs.all Char.isDigit then none
  else
    let n := cs.foldl (fun n c => n * 10 + (c.toNat - 48)) 0
    if n < UInt64.size then some n else none

/-- A complaint about the data; one that ends by stating a place is taken to mean that place. -/
def complaint (message : String) (rest : List Char) : Fault :=
  let unplaced : Fault := ⟨.mismatch message, rest, none⟩
  match Text.splitLast? " at line ".toList message.toList with
  | none => unplaced
  | some (before, after) =>
    match Text.stripStart? " column ".toList (after.dropWhile Char.isDigit) with
    | none => unplaced
    | some column =>
      match wordOfDigits? (after.takeWhile Char.isDigit), wordOfDigits? column with
      | some l, some c =>
        ⟨.mismatch (String.ofList before), rest, if l = 0 then none else some (.stated l c)⟩
      | _, _ => unplaced

end AccountRegistry.Json
