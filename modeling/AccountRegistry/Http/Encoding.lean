import AccountRegistry.Http.Message
import AccountRegistry.Text.Blank
import AccountRegistry.Text.Split

/-! # Encoded bodies

A client may ask for bodies in compressed form, with weights from zero to one. Small bodies are sent
as they are.
-/

namespace AccountRegistry.Http

/-- Up to three decimals, in thousandths. -/
def thousandths? (weight : Nat) : List Char → Option Nat
  | [] => some 0
  | c :: cs =>
    if c.isDigit && 1 ≤ weight then
      (thousandths? (weight / 10) cs).map fun n => (c.toNat - 48) * weight + n
    else none

/-- A weight, in thousandths. -/
def weight? : List Char → Option Nat
  | q :: '=' :: d :: cs =>
    if (q == 'q' || q == 'Q') && (d == '0' || d == '1') then
      let whole := if d = '1' then 1000 else 0
      match cs with
      | [] => some whole
      | '.' :: cs =>
        match thousandths? 100 cs with
        | some n => if whole + n ≤ 1000 then some (whole + n) else none
        | none => none
      | _ => none
    else none
  | _ => none

/-- Encodings that bodies can have. -/
inductive Encoding | identity | gzip
  deriving DecidableEq, Repr

def Encoding.read? (cs : List Char) : Option Encoding :=
  let name := String.ofList (cs.map Char.toLower)
  if name = "gzip" ∨ name = "x-gzip" then some .gzip
  else if name = "identity" then some .identity
  else none

/-- An encoding with its weight; one without a weight counts fully. -/
def readChoice? (cs : List Char) : Option (Encoding × Nat) := do
  let e ← Encoding.read? (Text.trim (cs.takeWhile (· != ';')))
  match cs.dropWhile (· != ';') with
  | [] => return (e, 1000)
  | _ :: w => return (e, ← weight? (Text.trim w))

/-- All encodings that a request asks for. -/
def choices (hs : Headers) : List (Encoding × Nat) :=
  ((hs.all "accept-encoding").filter isReadable).flatMap fun v =>
    (Text.splitAll ',' v.toList).filterMap readChoice?

/-- The greatest weight given to an encoding. -/
def weightOf (e : Encoding) (cs : List (Encoding × Nat)) : Nat :=
  ((cs.filter (·.1 == e)).map Prod.snd).foldl max 0

/-- Whether a request prefers compressed bodies. -/
def wantsGzip (hs : Headers) : Bool :=
  let cs := choices hs
  0 < weightOf .gzip cs && weightOf .identity cs ≤ weightOf .gzip cs

/-- Bodies of fewer bytes are never compressed. -/
def minCompressed : Nat := 32

def worthCompressing (b : Body) : Bool :=
  match b.size? with
  | some n => minCompressed ≤ n
  | none => true

/-- Marks the body as compressed where the request wants that and it is worth it. -/
def compress (req : Request) (res : Response) : Response :=
  if wantsGzip req.headers && worthCompressing res.body then
    res.adding [("content-encoding", "gzip")]
  else res

end AccountRegistry.Http
