import AccountRegistry.Text.Blank
import AccountRegistry.Time.Timestamp

/-! # Reading timestamps

A timestamp may be a full date and time with an offset, a date and time without one, which is in
UTC, or a bare date, which is its midnight in UTC. Blanks around it are ignored.
-/

namespace AccountRegistry.Timestamp

open Time

/-- Reads something from the head of a text. -/
abbrev Part (α : Type) := List Char → Option (α × List Char)

/-- Exactly so many ASCII digits, as a number. -/
def digits : Nat → Part Nat
  | 0, cs => some (0, cs)
  | n + 1, c :: cs =>
    if c.isDigit then
      (digits n cs).map fun p => ((c.toNat - 48) * Nat.pow 10 n + p.1, p.2)
    else none
  | _ + 1, [] => none

/-- Two digits for a number from `low` to `high`. -/
def pair (low high : Nat) : Part Nat := fun cs =>
  match digits 2 cs with
  | some (n, r) => if low ≤ n ∧ n ≤ high then some (n, r) else none
  | none => none

def literal (c : Char) : Part Unit
  | d :: cs => if d = c then some ((), cs) else none
  | [] => none

/-- A fraction of a second in nanoseconds: digits beyond the ninth are dropped. -/
def fraction : Part Nat := fun cs =>
  let ds := cs.takeWhile Char.isDigit
  if ds.isEmpty then none
  else
    let kept := ds.take 9 ++ List.replicate (9 - ds.length) '0'
    some (kept.foldl (fun n c => n * 10 + (c.toNat - 48)) 0, cs.dropWhile Char.isDigit)

/-- A sign; true for minus. -/
def sign : Part Bool
  | '+' :: cs => some (false, cs)
  | '-' :: cs => some (true, cs)
  | _ => none

def signedBy (negative : Bool) (n : Nat) : Int := if negative then -n else n

/-- Four digits with an optional sign. -/
def year : Part Int := fun cs =>
  match sign cs with
  | some (negative, r) => (digits 4 r).map fun p => (signedBy negative p.1, p.2)
  | none => (digits 4 cs).map fun p => (p.1, p.2)

/-! ## Bare dates -/

inductive DateError
  | component (name : String)
  | separator
  | trailing
  | day
  deriving DecidableEq, Repr

def DateError.message : DateError → String
  | .component name => s!"the '{name}' component could not be parsed"
  | .separator => "a character literal was not valid"
  | .trailing => "unexpected trailing characters; the end of input was expected"
  | .day => "day was not in range"

/-- What stands at the head of a text, or why it cannot be read. -/
def expect {α : Type} (e : DateError) (part : Part α) (cs : List Char) :
    Except DateError (α × List Char) :=
  match part cs with
  | some p => .ok p
  | none => .error e

/-- Year, month and day with dashes. -/
def dateParts (cs : List Char) : Except DateError (Date × List Char) := do
  let (y, cs) ← expect (.component "year") year cs
  let ((), cs) ← expect .separator (literal '-') cs
  let (m, cs) ← expect (.component "month") (pair 1 12) cs
  let ((), cs) ← expect .separator (literal '-') cs
  let (d, cs) ← expect (.component "day") (pair 1 31) cs
  return (⟨y, m, d⟩, cs)

def bareDate (cs : List Char) : Except DateError Date := do
  let (d, rest) ← dateParts cs
  if !rest.isEmpty then throw .trailing
  if d.Real then return d else throw .day

/-! ## Dates with times -/

def hourMinute : Part (Nat × Nat) := fun cs => do
  let (h, cs) ← pair 0 23 cs
  let ((), cs) ← literal ':' cs
  let (m, cs) ← pair 0 59 cs
  return ((h, m), cs)

/-- Hour, minute and second; the second may be 60. -/
def timeOfDay : Part (Nat × Nat × Nat) := fun cs => do
  let ((h, m), cs) ← hourMinute cs
  let ((), cs) ← literal ':' cs
  let (s, cs) ← pair 0 60 cs
  return ((h, m, s), cs)

/-- An optional point with a fraction behind it. -/
def optionalFraction : Part Nat := fun cs =>
  match cs with
  | '.' :: r => fraction r
  | cs => some (0, cs)

/-- Hours up to `most` and minutes with a sign, in minutes. -/
def signedOffset (most : Nat) : Part Int := fun cs => do
  let (negative, cs) ← sign cs
  let (h, cs) ← pair 0 most cs
  let ((), cs) ← literal ':' cs
  let (m, cs) ← pair 0 59 cs
  return (signedBy negative (h * 60 + m), cs)

/-- The letter for UTC, or an offset below a day. -/
def zone : Part Int := fun cs =>
  match cs with
  | 'Z' :: r | 'z' :: r => some (0, r)
  | cs => signedOffset 23 cs

/-- A second 60 stands for the last instant of the second before it, and only at the end of a month
in UTC. -/
def withLeapSecond (c : Clock) (offset : Int) : Option Timestamp :=
  if c.second = 60 then
    let t := ofClock { c with second := 59, nano := 999999999 } offset
    let utc := clock { t with offset := 0 }
    if utc.hour = 23 ∧ utc.minute = 59 ∧ utc.second = 59
        ∧ utc.date.day = monthLength utc.date.year utc.date.month then some t else none
  else some (ofClock c offset)

/-- A year without sign, any one ASCII character before the time, and an offset. -/
def full (cs : List Char) : Option Timestamp := do
  let (y, cs) ← digits 4 cs
  let ((), cs) ← literal '-' cs
  let (m, cs) ← pair 1 12 cs
  let ((), cs) ← literal '-' cs
  let (d, cs) ← pair 1 31 cs
  let cs ← match cs with
    | c :: r => if c.toNat < 0x80 then some r else none
    | [] => none
  let ((h, min, s), cs) ← timeOfDay cs
  let (nano, cs) ← optionalFraction cs
  let (offset, cs) ← zone cs
  if !cs.isEmpty || !decide (Date.Real ⟨y, m, d⟩) then none
  else withLeapSecond ⟨⟨y, m, d⟩, h, min, s, nano⟩ offset

/-- A date, the letter T and what `time` reads, to the end of the text. -/
def dated {α : Type} (time : Part α) (cs : List Char) : Option (Date × α) := do
  let (d, cs) ← (dateParts cs).toOption
  let ((), cs) ← literal 'T' cs
  let (x, cs) ← time cs
  if cs.isEmpty && decide d.Real then some (d, x) else none

/-- A date and a time down to the second at least, without offset. -/
def localTime (cs : List Char) : Option Timestamp :=
  let withSeconds : Option Timestamp := do
    let (d, (h, m, s), nano) ← dated (fun cs => do
      let (t, cs) ← timeOfDay cs
      let (nano, cs) ← optionalFraction cs
      return ((t, nano), cs)) cs
    if s = 60 then none else some (ofClock ⟨d, h, m, s, nano⟩ 0)
  withSeconds <|> do
    let (d, h, m) ← dated hourMinute cs
    some (ofClock ⟨d, h, m, 0, 0⟩ 0)

/-- A year that may have a sign, with a time in whole seconds and an offset of up to 25 hours. -/
def offsetTime (cs : List Char) : Option Timestamp := do
  let (d, (h, m, s), offset) ← dated (fun cs => do
    let (t, cs) ← timeOfDay cs
    let (offset, cs) ← signedOffset 25 cs
    return ((t, offset), cs)) cs
  if s = 60 then none else some (ofClock ⟨d, h, m, s, 0⟩ offset)

/-- A blank between date and time counts as the letter T. -/
def blankToT (cs : List Char) : List Char :=
  match cs.drop 10 with
  | ' ' :: rest => cs.take 10 ++ 'T' :: rest
  | _ => cs

/-- The timestamp that a text without surrounding blanks stands for. -/
def readTrimmed (cs : List Char) : Except DateError Timestamp :=
  match full cs <|> localTime (blankToT cs) <|> offsetTime (blankToT cs) with
  | some t => .ok t
  | none => (bareDate cs).map fun d => ofClock ⟨d, 0, 0, 0, 0⟩ 0

/-- The timestamp that a text stands for. -/
def read (s : String) : Except DateError Timestamp := readTrimmed (Text.trim s.toList)

end AccountRegistry.Timestamp
