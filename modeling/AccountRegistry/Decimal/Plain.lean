import AccountRegistry.Decimal.Shortest

/-! # Floating-point numbers as plain text

Numbers are read with or without an exponent part and written without one.
-/

namespace AccountRegistry.Decimal

def natOf (digits : List Char) : Nat := digits.foldl (fun n c => n * 10 + (c.toNat - 48)) 0

/-- The double nearest to `significand · 10 ^ exponent`, found without large powers where it is zero
or infinite. -/
def nearest (significand : Nat) (exponent : Int) : Float :=
  let top := exponent + (Nat.toDigits 10 significand).length
  if significand = 0 || top < -330 then 0.0
  else if top > 310 then 1.0 / 0.0
  else Float.ofScientific significand (exponent < 0) exponent.natAbs

/-- An exponent part up to the end of a text. -/
def exponentOf? : List Char → Option Int
  | [] => some 0
  | mark :: cs =>
    let (down, digits) : Bool × List Char := match cs with
      | '+' :: r => (false, r)
      | '-' :: r => (true, r)
      | r => (false, r)
    if (mark == 'e' || mark == 'E') && !digits.isEmpty && digits.all Char.isDigit then
      some (if down then -(natOf digits : Int) else natOf digits)
    else none

/-- A number without a sign. -/
def unsigned? (cs : List Char) : Option Float :=
  let name := String.ofList (cs.map Char.toLower)
  if name = "inf" || name = "infinity" then some (1.0 / 0.0)
  else if name = "nan" then some (0.0 / 0.0)
  else
    let whole := cs.takeWhile Char.isDigit
    let rest := cs.dropWhile Char.isDigit
    let (fraction, rest) := match rest with
      | '.' :: r => (r.takeWhile Char.isDigit, r.dropWhile Char.isDigit)
      | r => ([], r)
    if whole.isEmpty && fraction.isEmpty then none
    else (exponentOf? rest).map fun e => nearest (natOf (whole ++ fraction)) (e - fraction.length)

/-- A number with or without a sign. -/
def float? : List Char → Option Float
  | '+' :: cs => unsigned? cs
  | '-' :: cs => (unsigned? cs).map fun x => -x
  | cs => unsigned? cs

/-- A number without an exponent part, with as few digits as read back to it. -/
def plainText (x : Float) : String :=
  if x.isNaN then "NaN"
  else
    let bits := x.toBits
    let v := Binary.ofBits bits
    let digits :=
      if x.isInf then "inf".toList
      else if v.mantissa = 0 then ['0']
      else
        let (digits, top) := (shortest v).leading
        plain digits top
    String.ofList (if bits >>> 63 = 1 then '-' :: digits else digits)

/-- An integer of 64 bits with or without a sign. -/
def integer64? (cs : List Char) : Option Int :=
  let (negative, digits) : Bool × List Char := match cs with
    | '+' :: r => (false, r)
    | '-' :: r => (true, r)
    | r => (false, r)
  let n : Int := if negative then -(natOf digits : Int) else natOf digits
  let bound : Int := UInt64.size / 2
  if !digits.isEmpty && digits.all Char.isDigit && -bound ≤ n && n < bound then some n else none

/-- A number of at most 64 bits, with or without a plus sign. -/
def natural64? (cs : List Char) : Option Nat :=
  let digits := match cs with
    | '+' :: r => r
    | r => r
  if !digits.isEmpty && digits.all Char.isDigit && natOf digits < UInt64.size then
    some (natOf digits)
  else none

end AccountRegistry.Decimal
