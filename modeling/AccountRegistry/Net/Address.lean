import AccountRegistry.Text.Split
import AccountRegistry.Uuid

/-! # Network addresses

Addresses of four octets in decimal, or of eight groups in hexadecimal of which one run of zeros may
be left out. They are written in the shortest form.
-/

namespace AccountRegistry

inductive IpAddress
  | v4 (bits : BitVec 32)
  | v6 (bits : BitVec 128)
  deriving DecidableEq, Repr

namespace IpAddress

/-! ## Reading -/

/-- A decimal number up to 255 without leading zeros. -/
def octet? (cs : List Char) : Option Nat :=
  let n := cs.foldl (fun n c => n * 10 + (c.toNat - 48)) 0
  if 1 ≤ cs.length && cs.length ≤ 3 && cs.all Char.isDigit
      && (cs.head? != some '0' || cs.length == 1) && n ≤ 255 then some n
  else none

/-- The number whose digits to a base are given, the highest first. -/
def ofDigits (base : Nat) (ds : List Nat) : Nat := ds.foldl (fun n d => n * base + d) 0

/-- The lowest `count` digits of a number to a base, the highest first. -/
def digitsOf (base : Nat) : Nat → Nat → List Nat
  | 0, _ => []
  | count + 1, n => digitsOf base count (n / base) ++ [n % base]

def readV4? (cs : List Char) : Option Nat :=
  match (Text.splitAll '.' cs).mapM octet? with
  | some [a, b, c, d] => some (ofDigits 256 [a, b, c, d])
  | _ => none

/-- A group of one to four hexadecimal digits. -/
def group? (cs : List Char) : Option Nat :=
  if 1 ≤ cs.length && cs.length ≤ 4 && cs.all Uuid.isHex then some (Uuid.ofHex cs) else none

/-- Groups between colons; where `dotted`, the last two may be written as four octets. -/
def groupsOf (dotted : Bool) : List (List Char) → Option (List Nat)
  | [] => some []
  | [last] =>
    match group? last with
    | some g => some [g]
    | none => if dotted then (readV4? last).map (digitsOf 65536 2) else none
  | g :: rest => do return (← group? g) :: (← groupsOf dotted rest)

/-- Groups of a text, which may be empty. -/
def groups? (dotted : Bool) (cs : List Char) : Option (List Nat) :=
  if cs.isEmpty then some [] else groupsOf dotted (Text.splitAll ':' cs)

def readV6? (cs : List Char) : Option Nat :=
  match Text.splitFirst? "::".toList cs with
  | none => do
    let gs ← groups? true cs
    if gs.length = 8 then some (ofDigits 65536 gs) else none
  | some (front, back) => do
    let head ← groups? false front
    let tail ← groups? true back
    if head.length + tail.length ≤ 7 then
      some (ofDigits 65536 (head ++ List.replicate (8 - head.length - tail.length) 0 ++ tail))
    else none

def read? (s : String) : Option IpAddress :=
  match readV4? s.toList with
  | some n => some (.v4 (.ofNat 32 n))
  | none => (readV6? s.toList).map fun n => .v6 (.ofNat 128 n)

/-! ## Writing -/

def v4Text (n : Nat) : String := ".".intercalate ((digitsOf 256 4 n).map toString)

/-- A group in lower case without leading zeros. -/
def groupText (g : Nat) : String := String.ofList (Nat.toDigits 16 g)

def groupsText (gs : List Nat) : String := ":".intercalate (gs.map groupText)

/-- The number of zeros at the head of some groups. -/
def zeros (gs : List Nat) : Nat := (gs.takeWhile (· == 0)).length

/-- Where the first longest run of zeros starts, and its length. -/
def longestZeros (start : Nat) : List Nat → Nat × Nat
  | [] => (start, 0)
  | g :: gs =>
    let here := zeros (g :: gs)
    let later := longestZeros (start + 1) gs
    if here = 0 || here < later.2 then later else (start, here)

def v6Text (n : Nat) : String :=
  let gs := digitsOf 65536 8 n
  let (start, length) := longestZeros 0 gs
  if gs.take 6 = [0, 0, 0, 0, 0, 65535] then "::ffff:" ++ v4Text n
  else if 2 ≤ length then
    groupsText (gs.take start) ++ "::" ++ groupsText (gs.drop (start + length))
  else groupsText gs

def text : IpAddress → String
  | .v4 bits => v4Text bits.toNat
  | .v6 bits => v6Text bits.toNat

/-- The address of all interfaces. -/
def unspecified : IpAddress := .v4 0

end IpAddress

/-- An address and a port on it. -/
structure Endpoint where
  address : IpAddress
  port : UInt16
  deriving DecidableEq, Repr

def Endpoint.text (e : Endpoint) : String :=
  match e.address with
  | .v4 _ => s!"{e.address.text}:{e.port.toNat}"
  | .v6 _ => s!"[{e.address.text}]:{e.port.toNat}"

end AccountRegistry
