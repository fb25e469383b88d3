import AccountRegistry.Text.Split
import AccountRegistry.Text.Utf8

/-! # Percent escapes

An escape is a percent sign with two hexadecimal digits; a percent sign without them stands for
itself. Forms separate their pairs by ampersands and write a blank as a plus sign.
-/

namespace AccountRegistry.Text.Percent

def hexDigit? (b : UInt8) : Option UInt8 :=
  if 0x30 ≤ b && b ≤ 0x39 then some (b - 0x30)
  else if 0x41 ≤ b && b ≤ 0x46 then some (b - 0x37)
  else if 0x61 ≤ b && b ≤ 0x66 then some (b - 0x57)
  else none

def decodeBytes : List UInt8 → List UInt8
  | [] => []
  | b :: rest =>
    if b = 0x25 then
      match rest with
      | h :: l :: rest' =>
        match hexDigit? h, hexDigit? l with
        | some x, some y => (x * 16 + y) :: decodeBytes rest'
        | _, _ => b :: decodeBytes (h :: l :: rest')
      | _ => b :: rest
    else b :: decodeBytes rest

/-- The text that an escaped text stands for. -/
def decode (cs : List Char) : Except Utf8.Error (List Char) :=
  Utf8.decode (decodeBytes (Utf8.encode cs))

def unreserved (b : UInt8) : Bool :=
  (0x30 ≤ b && b ≤ 0x39) || (0x41 ≤ b && b ≤ 0x5A) || (0x61 ≤ b && b ≤ 0x7A)
    || b == 0x2D || b == 0x2E || b == 0x5F || b == 0x7E

def hexUpper (digit : Nat) : Char := Char.ofNat (if digit < 10 then 0x30 + digit else 0x37 + digit)

/-- A byte as itself or as an escape. -/
def encodeByte (b : UInt8) : List Char :=
  if unreserved b then [Char.ofNat b.toNat]
  else ['%', hexUpper (b.toNat / 16), hexUpper (b.toNat % 16)]

/-- A text with its reserved bytes escaped. -/
def encode (cs : List Char) : List Char := (Utf8.encode cs).flatMap encodeByte

/-- A text of a form: plus signs are blanks, and bytes that are no text are replaced. -/
def formText (bytes : List UInt8) : List Char :=
  Utf8.decodeLossy (decodeBytes (bytes.map fun b => if b = 0x2B then 0x20 else b))

/-- The name and value pairs of a form; empty pairs are skipped. -/
def formPairs (bytes : List UInt8) : List (List Char × List Char) :=
  ((splitAll 0x26 bytes).filter (!·.isEmpty)).map fun pair =>
    (formText (pair.takeWhile (· != 0x3D)), formText ((pair.dropWhile (· != 0x3D)).drop 1))

end AccountRegistry.Text.Percent
