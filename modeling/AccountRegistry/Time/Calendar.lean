/-! # Calendar

Days of the proleptic Gregorian calendar, counted from the first of January 1970. The count runs by
eras of 400 years that begin with March, so that a leap day ends its year.
-/

namespace AccountRegistry.Time

structure Date where
  year : Int
  month : Nat
  day : Nat
  deriving DecidableEq, Repr

def isLeapYear (y : Int) : Bool := y % 4 == 0 && (y % 100 != 0 || y % 400 == 0)

def monthLength (y : Int) (m : Nat) : Nat :=
  if m = 2 then if isLeapYear y then 29 else 28
  else if m = 4 || m = 6 || m = 9 || m = 11 then 30
  else 31

/-- A day that the calendar has. -/
def Date.Real (d : Date) : Prop :=
  1 ≤ d.month ∧ d.month ≤ 12 ∧ 1 ≤ d.day ∧ d.day ≤ monthLength d.year d.month

instance (d : Date) : Decidable d.Real := by unfold Date.Real; infer_instance

/-- Days in an era of 400 years. -/
def eraDays : Int := 146097

/-- Days from the first of March of year 0 to the first of January 1970. -/
def epochShift : Int := 719468

/-- Days from the first of March to a day of a month. -/
def dayOfYear (month day : Nat) : Nat :=
  let m := if month > 2 then month - 3 else month + 9
  (153 * m + 2) / 5 + day - 1

def Date.toDays (d : Date) : Int :=
  let y := if d.month ≤ 2 then d.year - 1 else d.year
  let era := y / 400
  let ofEra := y % 400
  era * eraDays + (ofEra * 365 + ofEra / 4 - ofEra / 100 + dayOfYear d.month d.day) - epochShift

def Date.ofDays (days : Int) : Date :=
  let era := (days + epochShift) / eraDays
  let rest := ((days + epochShift) % eraDays).toNat
  let century := min (rest / 36524) 3
  let rest := rest - century * 36524
  let cycle := rest / 1461
  let rest := rest % 1461
  let inCycle := min (rest / 365) 3
  let rest := rest - inCycle * 365
  let m := (5 * rest + 2) / 153
  let month := if m < 10 then m + 3 else m - 9
  let year := era * 400 + century * 100 + cycle * 4 + inCycle
  ⟨if month ≤ 2 then year + 1 else year, month, rest - (153 * m + 2) / 5 + 1⟩

end AccountRegistry.Time
