import AccountRegistry.Decimal.Shortest
import AccountRegistry.Json.Basic

/-! # Compact JSON text

A value is written without blanks. Strings escape the quote, the backslash and control characters.
-/

namespace AccountRegistry.Json

def hexLower (n : Nat) : Char := Nat.digitChar (n % 16)

/-- A character as it stands inside a written string. -/
def escapeChar (c : Char) : List Char :=
  if c = '"' then ['\\', '"']
  else if c = '\\' then ['\\', '\\']
  else if c = '\n' then ['\\', 'n']
  else if c = '\r' then ['\\', 'r']
  else if c = '\t' then ['\\', 't']
  else if c.toNat = 8 then ['\\', 'b']
  else if c.toNat = 12 then ['\\', 'f']
  else if c.toNat < 32 then ['\\', 'u', '0', '0', hexLower (c.toNat / 16), hexLower c.toNat]
  else [c]

def printString (s : String) : List Char := '"' :: s.toList.flatMap escapeChar ++ ['"']

/-- Floating-point numbers always show a point or an exponent, the exponent with its sign. -/
def floatLayout : Decimal.Layout := ⟨-5, 15, true⟩

def printFloat (x : Float) : List Char :=
  if x.isNaN || x.isInf then "null".toList
  else
    let bits := x.toBits
    let sign := if bits >>> 63 = 1 then ['-'] else []
    let v := Decimal.Binary.ofBits bits
    sign ++ if v.mantissa = 0 then "0.0".toList else floatLayout.render (Decimal.shortest v)

def printNumber : Number → List Char
  | .natural n => Nat.toDigits 10 n
  | .negative n => '-' :: Nat.toDigits 10 n
  | .float x => printFloat x

mutual

def printValue : Value → List Char
  | .null => "null".toList
  | .bool b => (if b then "true" else "false").toList
  | .number n => printNumber n
  | .string s => printString s
  | .array items => '[' :: printItems items
  | .object members => '\x7b' :: printMembers members

/-- The items with the bracket that closes them. -/
def printItems : List Value → List Char
  | [] => [']']
  | [v] => printValue v ++ [']']
  | v :: rest => printValue v ++ ',' :: printItems rest

/-- The members with the brace that closes them. -/
def printMembers : List (String × Value) → List Char
  | [] => ['\x7d']
  | [(key, v)] => printString key ++ ':' :: printValue v ++ ['\x7d']
  | (key, v) :: rest => printString key ++ ':' :: printValue v ++ ',' :: printMembers rest

end

def Value.print (v : Value) : String := String.ofList (printValue v)

end AccountRegistry.Json
