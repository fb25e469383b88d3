import AccountRegistry.Text.Split
import AccountRegistry.Text.Utf8

/-! # Identifiers of 128 bits

They are read with or without hyphens, in braces or as a urn, in either letter case, and always
written in lower case with hyphens.
-/

namespace AccountRegistry

structure Uuid where
  bits : BitVec 128
  deriving DecidableEq, Repr, Inhabited

namespace Uuid

def toNat (u : Uuid) : Nat := u.bits.toNat

def ofNat (n : Nat) : Uuid := ⟨BitVec.ofNat 128 n⟩

def compare (a b : Uuid) : Ordering := Ord.compare a.toNat b.toNat

/-- The lowest `n` hexadecimal digits of a number, the first one being the highest. -/
def hexDigits : Nat → Nat → List Char
  | 0, _ => []
  | n + 1, x => hexDigits n (x / 16) ++ [Nat.digitChar (x % 16)]

/-- Digits in groups of 8, 4, 4, 4 and 12. -/
def grouped (ds : List Char) : List Char :=
  ds.take 8 ++ '-' :: (ds.drop 8).take 4 ++ '-' :: (ds.drop 12).take 4 ++ '-' :: (ds.drop 16).take 4
    ++ '-' :: ds.drop 20

def chars (u : Uuid) : List Char := grouped (hexDigits 32 u.toNat)

def text (u : Uuid) : String := String.ofList u.chars

inductive ReadError
  | character (c : Char) (index : Nat)
  | length (found : Nat)
  | groupCount (found : Nat)
  | groupLength (group expected found : Nat)
  deriving DecidableEq, Repr

def ReadError.message : ReadError → String
  | .character c index => s!"invalid character: found `{c}` at {index}"
  | .length found => s!"invalid length: found {found}"
  | .groupCount found => s!"invalid group count: expected 5, found {found}"
  | .groupLength group expected found =>
    s!"invalid group length in group {group}: expected {expected}, found {found}"

def isHex (c : Char) : Bool :=
  c.isDigit || ('a' ≤ c && c ≤ 'f') || ('A' ≤ c && c ≤ 'F')

def hexValue (c : Char) : Nat :=
  if c.isDigit then c.toNat - 48 else if c ≤ 'F' then c.toNat - 55 else c.toNat - 87

/-- The number that hexadecimal digits write. -/
def ofHex (ds : List Char) : Nat := ds.foldl (fun n c => n * 16 + hexValue c) 0

/-- The digits of 36 characters with hyphens in their places. -/
def ungrouped? (cs : List Char) : Option (List Char) :=
  let ds := cs.filter (· != '-')
  if ds.length = 32 && ds.all isHex && grouped ds == cs then some ds else none

def urnStart : List Char := "urn:uuid:".toList

/-- What is inside braces or behind the start of a urn, and how much of it was cut off in front. -/
def unwrapped? (cs : List Char) : Option (List Char × Nat) :=
  match cs with
  | '\x7b' :: rest =>
    if rest.getLast? == some '\x7d' then some (rest.dropLast, 1) else none
  | cs => if (cs.take 9).map Char.toLower = urnStart then some (cs.drop 9, 9) else none

def digits? (cs : List Char) : Option (List Char) :=
  if cs.length = 32 && cs.all isHex then some cs
  else ungrouped? ((unwrapped? cs).elim cs Prod.fst)

/-- The bytes of a text. -/
def byteCount (cs : List Char) : Nat := (Text.Utf8.encode cs).length

/-- The first character that is neither digit nor hyphen, with its byte index. -/
def firstForeign (index : Nat) : List Char → Option (Char × Nat)
  | [] => none
  | c :: cs =>
    if isHex c || c == '-' then firstForeign (index + 1) cs else some (c, index)

/-- The byte indices of the hyphens of a text of digits and hyphens. -/
def hyphens (index : Nat) : List Char → List Nat
  | [] => []
  | c :: cs => if c = '-' then index :: hyphens (index + 1) cs else hyphens (index + 1) cs

/-- The first group that does not fill its place: groups with their lengths and starts. -/
def wrongGroup : List Nat → (group start : Nat) → List Nat → Option ReadError
  | expected :: more, group, start, index :: rest =>
    if index = start + expected then wrongGroup more (group + 1) (index + 1) rest
    else some (.groupLength group expected (index - start))
  | _, _, _, _ => none

/-- The most bytes that any form has. -/
def maxLength : Nat := 45

/-- What an identifier is looked for in: a part of the text, the index that its first byte is given,
and whether it is to be in groups. -/
structure Candidate where
  chars : List Char
  start : Nat
  isGrouped : Bool

/-- A text of the right size for one form is taken to have that form, and a form in groups is then
looked at without what is around it; any other text is whatever its beginning and end make it. -/
def Candidate.ofText (cs : List Char) : Candidate :=
  let size := byteCount cs
  if size = 32 then ⟨cs, 0, false⟩
  else if size = 36 then ⟨cs, 0, true⟩
  else match unwrapped? cs with
    | some (inner, start) => ⟨inner, if byteCount inner = 36 then 0 else start, true⟩
    | none => ⟨cs, 0, false⟩

/-- Why a text is not an identifier. -/
def refusal (cs : List Char) : ReadError :=
  let size := byteCount cs
  let part := Candidate.ofText cs
  if size > maxLength then .length size
  else match firstForeign part.start part.chars with
    | some (c, index) => .character c index
    | none =>
      let bounds := hyphens 0 part.chars
      if bounds.isEmpty && !part.isGrouped then .length size
      else if bounds.length ≠ 4 then .groupCount (bounds.length + 1)
      else match wrongGroup [8, 4, 4, 4] 0 0 bounds with
        | some e => e
        | none => .groupLength 4 12 (size - 24)

def read (s : String) : Except ReadError Uuid :=
  match digits? s.toList with
  | some ds => .ok (ofNat (ofHex ds))
  | none => .error (refusal s.toList)

end Uuid

end AccountRegistry
