/-! # UTF-8

Characters and bytes. Any bytes split into pieces, each a character or a broken sequence with its
place and length, from which both the strict and the lenient reading are read off.
-/

namespace AccountRegistry.Text.Utf8

def encodeChar (c : Char) : List UInt8 :=
  let n := c.toNat
  if n < 0x80 then [n.toUInt8]
  else if n < 0x800 then [(0xC0 + n / 0x40).toUInt8, (0x80 + n % 0x40).toUInt8]
  else if n < 0x10000 then
    [(0xE0 + n / 0x1000).toUInt8, (0x80 + n / 0x40 % 0x40).toUInt8, (0x80 + n % 0x40).toUInt8]
  else
    [(0xF0 + n / 0x40000).toUInt8, (0x80 + n / 0x1000 % 0x40).toUInt8,
     (0x80 + n / 0x40 % 0x40).toUInt8, (0x80 + n % 0x40).toUInt8]

def encode (cs : List Char) : List UInt8 := cs.flatMap encodeChar

/-- A sequence under way: what has been read of it, and which byte may come next. -/
structure Pending where
  read : Nat
  owed : Nat
  low : Nat
  high : Nat
  code : Nat

inductive Lead
  | char (c : Char)
  | pending (p : Pending)
  | none

/-- What a byte between characters starts. -/
def lead (b : UInt8) : Lead :=
  let n := b.toNat
  if n < 0x80 then .char (Char.ofNat n)
  else if n < 0xC2 then .none
  else if n < 0xE0 then .pending ⟨1, 1, 0x80, 0xBF, n - 0xC0⟩
  else if n < 0xF0 then
    .pending ⟨1, 2, if n = 0xE0 then 0xA0 else 0x80, if n = 0xED then 0x9F else 0xBF, n - 0xE0⟩
  else if n < 0xF5 then
    .pending ⟨1, 3, if n = 0xF0 then 0x90 else 0x80, if n = 0xF4 then 0x8F else 0xBF, n - 0xF0⟩
  else .none

inductive Piece
  | char (c : Char)
  /-- A sequence of `length` bytes at `index` that no character continues. -/
  | broken (index length : Nat)
  /-- A sequence at `index` that the end of the bytes cuts off. -/
  | cut (index : Nat)

/-- The pieces of the bytes from `index` on. -/
def piecesFrom (index : Nat) : Option Pending → List UInt8 → List Piece
  | none, [] => []
  | some p, [] => [.cut (index - p.read)]
  | none, b :: rest =>
    match lead b with
    | .char c => .char c :: piecesFrom (index + 1) none rest
    | .pending p => piecesFrom (index + 1) (some p) rest
    | .none => .broken index 1 :: piecesFrom (index + 1) none rest
  | some p, b :: rest =>
    if p.low ≤ b.toNat ∧ b.toNat ≤ p.high then
      let code := p.code * 0x40 + (b.toNat - 0x80)
      if p.owed ≤ 1 then .char (Char.ofNat code) :: piecesFrom (index + 1) none rest
      else piecesFrom (index + 1) (some ⟨p.read + 1, p.owed - 1, 0x80, 0xBF, code⟩) rest
    else
      .broken (index - p.read) p.read :: match lead b with
        | .char c => .char c :: piecesFrom (index + 1) none rest
        | .pending q => piecesFrom (index + 1) (some q) rest
        | .none => .broken index 1 :: piecesFrom (index + 1) none rest

def pieces (bytes : List UInt8) : List Piece := piecesFrom 0 none bytes

inductive Error
  | invalid (index length : Nat)
  | incomplete (index : Nat)
  deriving DecidableEq, Repr

def Error.message : Error → String
  | .invalid index length => s!"invalid utf-8 sequence of {length} bytes from index {index}"
  | .incomplete index => s!"incomplete utf-8 byte sequence from index {index}"

def ofPieces : List Piece → Except Error (List Char)
  | [] => .ok []
  | .char c :: rest => (ofPieces rest).map (c :: ·)
  | .broken index length :: _ => .error (.invalid index length)
  | .cut index :: _ => .error (.incomplete index)

/-- The characters of well-formed bytes. -/
def decode (bytes : List UInt8) : Except Error (List Char) := ofPieces (pieces bytes)

def Piece.shown : Piece → Char
  | .char c => c
  | .broken .. | .cut _ => '\uFFFD'

/-- The characters of any bytes, with the replacement character for each broken sequence. -/
def decodeLossy (bytes : List UInt8) : List Char := (pieces bytes).map Piece.shown

end AccountRegistry.Text.Utf8
