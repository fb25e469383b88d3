import AccountRegistry.Time.Calendar

/-! # Timestamps

An instant together with the offset from UTC at which it was given. Instants are compared, offsets
are only shown.
-/

namespace AccountRegistry

open Time

structure Timestamp where
  /-- Nanoseconds since the start of 1970 in UTC. -/
  nanos : Int
  /-- The offset from UTC in minutes. -/
  offset : Int
  deriving DecidableEq, Repr, Inhabited

namespace Timestamp

def nanosPerSecond : Int := 1000000000

def compare (a b : Timestamp) : Ordering := Ord.compare a.nanos b.nanos

/-- A day and a time of day, as a clock at the offset shows them. -/
structure Clock where
  date : Date
  hour : Nat
  minute : Nat
  second : Nat
  nano : Nat
  deriving DecidableEq, Repr

/-- Seconds from the start of 1970 on the clock. -/
def Clock.seconds (c : Clock) : Int :=
  ((c.date.toDays * 24 + c.hour) * 60 + c.minute) * 60 + c.second

def ofClock (c : Clock) (offset : Int) : Timestamp :=
  ⟨(c.seconds - offset * 60) * nanosPerSecond + c.nano, offset⟩

def clock (t : Timestamp) : Clock :=
  let seconds := t.nanos / nanosPerSecond + t.offset * 60
  let ofDay := (seconds % 86400).toNat
  ⟨Date.ofDays (seconds / 86400), ofDay / 3600, ofDay / 60 % 60, ofDay % 60,
    (t.nanos % nanosPerSecond).toNat⟩

/-- The instants of the years -9999 to 9999. -/
def InRange (nanos : Int) : Prop :=
  -377705116800 * nanosPerSecond ≤ nanos ∧ nanos < 253402300800 * nanosPerSecond

instance (nanos : Int) : Decidable (InRange nanos) := by unfold InRange; infer_instance

/-- The instant so many nanoseconds from the start of 1970, in UTC. -/
def ofNanos? (nanos : Int) : Option Timestamp := if InRange nanos then some ⟨nanos, 0⟩ else none

/-! ## Written form -/

inductive TextError
  | year
  | offsetHour
  deriving DecidableEq, Repr

def TextError.message : TextError → String
  | .year => "The year component cannot be formatted into the requested format."
  | .offsetHour => "The offset_hour component cannot be formatted into the requested format."

/-- A number in at least `width` digits. -/
def padded (width n : Nat) : List Char :=
  let digits := Nat.toDigits 10 n
  List.replicate (width - digits.length) '0' ++ digits

/-- The fraction of a second without trailing zeros, its point included. -/
def fractionText (nano : Nat) : List Char :=
  if nano = 0 then []
  else '.' :: ((padded 9 nano).reverse.dropWhile (· == '0')).reverse

def offsetText (offset : Int) : List Char :=
  if offset = 0 then ['Z']
  else
    (if offset < 0 then '-' else '+') ::
      padded 2 (offset.natAbs / 60) ++ ':' :: padded 2 (offset.natAbs % 60)

/-- Date, time and offset, for years of four digits and offsets below a day. -/
def chars (t : Timestamp) : Except TextError (List Char) :=
  let c := t.clock
  if c.date.year < 0 ∨ 9999 < c.date.year then .error .year
  else if 23 < t.offset.natAbs / 60 then .error .offsetHour
  else .ok (padded 4 c.date.year.toNat ++ '-' :: padded 2 c.date.month ++ '-' :: padded 2 c.date.day
    ++ 'T' :: padded 2 c.hour ++ ':' :: padded 2 c.minute ++ ':' :: padded 2 c.second
    ++ fractionText c.nano ++ offsetText t.offset)

def text (t : Timestamp) : Except TextError String := t.chars.map String.ofList

end Timestamp

end AccountRegistry
