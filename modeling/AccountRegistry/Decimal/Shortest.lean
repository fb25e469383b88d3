/-! # Shortest decimals

The fewest digits that read back as a given floating-point number, found by exact arithmetic on the
interval of reals that round to it.
-/

namespace AccountRegistry.Decimal

/-- A finite number `mantissa · 2 ^ exponent` and whether it lies at the low end of its binade. -/
structure Binary where
  mantissa : Nat
  exponent : Int
  lowEnd : Bool

/-- The parts of a finite double, sign apart. -/
def Binary.ofBits (bits : UInt64) : Binary :=
  let fraction : Nat := bits.toNat % 0x10000000000000
  let biased : Nat := bits.toNat / 0x10000000000000 % 0x800
  if biased = 0 then ⟨fraction, -1074, false⟩
  else ⟨fraction + 0x10000000000000, (biased : Int) - 1075, fraction == 0 && biased != 1⟩

/-- A numeral `digits · 10 ^ exponent`. -/
structure Numeral where
  digits : Nat
  exponent : Int
  deriving DecidableEq, Repr

/-- `n · 2 ^ e · 10 ^ (-p)` as a fraction. -/
def scaled (n : Nat) (e p : Int) : Nat × Nat :=
  (n * Nat.pow 2 e.toNat * Nat.pow 10 (-p).toNat, Nat.pow 2 (-e).toNat * Nat.pow 10 p.toNat)

/-- The least `e` above `start` with `num / den < 10 ^ (e + 1)`, searched upwards. -/
def magnitudeFrom (num den : Nat) : Nat → Int → Int
  | 0, e => e
  | fuel + 1, e =>
    if num * Nat.pow 10 (-(e + 1)).toNat < den * Nat.pow 10 (e + 1).toNat then e
    else magnitudeFrom num den fuel (e + 1)

/-- The exponent of the leading decimal digit of a positive number. -/
def magnitude (v : Binary) : Int :=
  let (num, den) := scaled v.mantissa v.exponent 0
  magnitudeFrom num den 700 (-350)

/-- The point nearest to `v` on the grid of multiples of `10 ^ p` that lies among the reals that
round to `v`. -/
def onGrid? (v : Binary) (p : Int) : Option Nat :=
  let e := v.exponent - 2
  let (num, den) := scaled (4 * v.mantissa) e p
  let (low, _) := scaled (4 * v.mantissa - if v.lowEnd then 1 else 2) e p
  let (high, _) := scaled (4 * v.mantissa + 2) e p
  let within (c : Nat) : Bool :=
    if v.mantissa % 2 = 0 then low ≤ c * den && c * den ≤ high else low < c * den && c * den < high
  let below := num / den
  let above := below + 1
  if within below then
    if within above && (above * den - num < num - below * den
        || above * den - num == num - below * den && below % 2 == 1) then some above
    else some below
  else if within above then some above
  else none

/-- The shortest decimal with `n` or more digits. -/
def shortestFrom (v : Binary) (top : Int) : Nat → Nat → Numeral
  | 0, _ => ⟨v.mantissa, 0⟩
  | fuel + 1, n =>
    let p := top - n + 1
    match onGrid? v p with
    | some c => ⟨c, p⟩
    | none => shortestFrom v top fuel (n + 1)

/-- The shortest decimal that reads back as a positive number. -/
def shortest (v : Binary) : Numeral := shortestFrom v (magnitude v) 20 1

/-- How a decimal is laid out: exponents of the leading digit from `least` to `greatest` are written
positionally, others with an exponent part. -/
structure Layout where
  least : Int
  greatest : Int
  plusSign : Bool

/-- Digits without an exponent part, `top` being the exponent of the first one. -/
def plain (digits : List Char) (top : Int) : List Char :=
  if top < 0 then "0.".toList ++ List.replicate (-top - 1).toNat '0' ++ digits
  else
    let whole := top.toNat + 1
    if digits.length ≤ whole then digits ++ List.replicate (whole - digits.length) '0'
    else digits.take whole ++ '.' :: digits.drop whole

/-- The same with a point in every case. -/
def positional (digits : List Char) (top : Int) : List Char :=
  plain digits top ++ if digits.length ≤ top + 1 then ".0".toList else []

/-- The digits of a positive numeral without trailing zeros, and the exponent of the first one. -/
def Numeral.leading (d : Numeral) : List Char × Int :=
  let digits := Nat.toDigits 10 d.digits
  ((digits.reverse.dropWhile (· == '0')).reverse, d.exponent + digits.length - 1)

def Layout.render (l : Layout) (d : Numeral) : List Char :=
  let (digits, top) := d.leading
  if l.least ≤ top && top ≤ l.greatest then positional digits top
  else
    let lead := digits.take 1 ++ (if digits.length > 1 then '.' :: digits.drop 1 else [])
    let sign := if top < 0 then "e-" else if l.plusSign then "e+" else "e"
    lead ++ sign.toList ++ Nat.toDigits 10 top.natAbs

end AccountRegistry.Decimal
