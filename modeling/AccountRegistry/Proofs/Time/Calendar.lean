import AccountRegistry.Time.Calendar
import Mathlib.Tactic.IntervalCases

/-! # The calendar

Counting the days up to a date of the calendar loses nothing. Years, months and days are found again
one after the other, each from what the count leaves of the larger ones. Every day has a date, and
is the day that this date counts to.
-/

namespace AccountRegistry.Time

/-! ## Months of a year that begins with March -/

/-- The months since March. -/
def marchMonth (month : Nat) : Nat := if month > 2 then month - 3 else month + 9

theorem month_of_marchMonth {month : Nat} (h : 1 ≤ month) (h' : month ≤ 12) :
    (if marchMonth month < 10 then marchMonth month + 3 else marchMonth month - 9) = month := by
  interval_cases month <;> decide

theorem dayOfYear_eq (month day : Nat) :
    dayOfYear month day = (153 * marchMonth month + 2) / 5 + day - 1 := rfl

/-- A month ends before the next one starts. -/
theorem monthLength_le (y : Int) {month : Nat} (h : 1 ≤ month) (h' : month ≤ 12) :
    (153 * marchMonth month + 2) / 5 + monthLength y month ≤
      (153 * (marchMonth month + 1) + 2) / 5 := by
  unfold monthLength
  generalize isLeapYear y = leap
  interval_cases month <;> revert leap <;> decide

/-- The year ends with February, which has a day more in leap years. -/
theorem dayOfYear_monthLength_le (y : Int) {month : Nat} (h : 1 ≤ month) (h' : month ≤ 12) :
    dayOfYear month (monthLength y month) ≤ 364 ∨
      dayOfYear month (monthLength y month) = 365 ∧ month ≤ 2 ∧ isLeapYear y = true := by
  unfold monthLength
  generalize isLeapYear y = leap
  interval_cases month <;> revert leap <;> decide

/-! ## Years of an era -/

/-- The day of an era, for a year of the era and a day of that year. -/
def eraDay (year day : Nat) : Nat := year * 365 + year / 4 - year / 100 + day

/-- A day of a year of an era. Years that leave three when divided by four end with a leap day, but
of those that end a century only the last does. -/
def IsDayOf (year day : Nat) : Prop :=
  year < 400 ∧ (day ≤ 364 ∨ day = 365 ∧ year % 4 = 3 ∧ (year % 100 ≠ 99 ∨ year = 399))

namespace IsDayOf

variable {year day : Nat} (h : IsDayOf year day)

include h

theorem eraDay_lt : eraDay year day < 146097 := by
  obtain ⟨hyear, hday⟩ := h
  unfold eraDay
  omega

theorem century_eq : min (eraDay year day / 36524) 3 = year / 100 := by
  obtain ⟨hyear, hday⟩ := h
  unfold eraDay
  omega

theorem eraDay_sub_centuries :
    eraDay year day - year / 100 * 36524 = year % 100 / 4 * 1461 + (year % 4 * 365 + day) := by
  obtain ⟨hyear, hday⟩ := h
  unfold eraDay
  omega

theorem cycle_eq :
    (year % 100 / 4 * 1461 + (year % 4 * 365 + day)) / 1461 = year % 100 / 4 := by
  obtain ⟨hyear, hday⟩ := h
  omega

theorem cycle_rest :
    (year % 100 / 4 * 1461 + (year % 4 * 365 + day)) % 1461 = year % 4 * 365 + day := by
  obtain ⟨hyear, hday⟩ := h
  omega

theorem inCycle_eq : min ((year % 4 * 365 + day) / 365) 3 = year % 4 := by
  obtain ⟨hyear, hday⟩ := h
  omega

end IsDayOf

/-! ## Dates -/

namespace Date

/-- The year that the last March began. -/
def marchYear (d : Date) : Int := if d.month ≤ 2 then d.year - 1 else d.year

theorem isLeapYear_iff (y : Int) :
    isLeapYear y = true ↔ y % 4 = 0 ∧ (y % 100 ≠ 0 ∨ y % 400 = 0) := by
  simp [isLeapYear]

theorem toDays_eq (d : Date) : d.toDays + epochShift =
    d.marchYear / 400 * eraDays +
      eraDay (d.marchYear % 400).toNat (dayOfYear d.month d.day) := by
  unfold toDays eraDay
  rw [← marchYear]
  dsimp only
  omega

namespace Real

variable {d : Date} (h : d.Real)

include h

theorem isDayOf : IsDayOf (d.marchYear % 400).toNat (dayOfYear d.month d.day) := by
  obtain ⟨hmonth, hmonth', hday, hday'⟩ := h
  have hlast := dayOfYear_monthLength_le d.year hmonth hmonth'
  have hle : dayOfYear d.month d.day ≤ dayOfYear d.month (monthLength d.year d.month) := by
    rw [dayOfYear_eq, dayOfYear_eq]
    omega
  rw [isLeapYear_iff] at hlast
  unfold marchYear
  refine ⟨by omega, ?_⟩
  split <;> omega

theorem month_of_dayOfYear :
    (5 * dayOfYear d.month d.day + 2) / 153 = marchMonth d.month := by
  have hlength := monthLength_le d.year h.1 h.2.1
  have hday := h.2.2.2
  have hpos := h.2.2.1
  rw [dayOfYear_eq]
  omega

theorem day_of_dayOfYear :
    dayOfYear d.month d.day - (153 * marchMonth d.month + 2) / 5 + 1 = d.day := by
  have hpos := h.2.2.1
  rw [dayOfYear_eq]
  omega

end Real

/-- Every date of the calendar is found again from its days. -/
theorem ofDays_toDays {d : Date} (h : d.Real) : ofDays d.toDays = d := by
  have hyear := h.isDayOf
  have hlt := hyear.eraDay_lt
  have hera : (d.toDays + epochShift) / eraDays = d.marchYear / 400 := by
    rw [toDays_eq]
    unfold eraDays
    omega
  have hrest : ((d.toDays + epochShift) % eraDays).toNat =
      eraDay (d.marchYear % 400).toNat (dayOfYear d.month d.day) := by
    rw [toDays_eq]
    unfold eraDays
    omega
  have hsum : d.marchYear / 400 * 400 + ((d.marchYear % 400).toNat / 100 : Nat) * 100 +
      ((d.marchYear % 400).toNat % 100 / 4 : Nat) * 4 + ((d.marchYear % 400).toNat % 4 : Nat) =
        d.marchYear := by
    omega
  unfold ofDays
  simp only [hera, hrest, hyear.century_eq, hyear.eraDay_sub_centuries, hyear.cycle_eq,
    hyear.cycle_rest, hyear.inCycle_eq, Nat.add_sub_cancel_left, h.month_of_dayOfYear,
    h.day_of_dayOfYear, month_of_marchMonth h.1 h.2.1, hsum]
  obtain ⟨y, m, day⟩ := d
  unfold marchYear
  dsimp only
  split
  · rw [Int.sub_add_cancel]
  · rfl

end Date

/-! ## Dates of days -/

/-- A year of an era by its century, its cycle of four years and its place among these. -/
theorem eraDay_parts {century cycle inCycle : Nat} (h : cycle ≤ 24) (h' : inCycle ≤ 3)
    (day : Nat) : eraDay (century * 100 + cycle * 4 + inCycle) day =
      century * 36524 + (cycle * 1461 + (inCycle * 365 + day)) := by
  have hfour : (century * 100 + cycle * 4 + inCycle) / 4 = century * 25 + cycle := by omega
  have hhundred : (century * 100 + cycle * 4 + inCycle) / 100 = century := by omega
  unfold eraDay
  omega

/-- What is left of a day of an era, once its centuries are taken away. -/
def dayOfCentury (day : Nat) : Nat := day - min (day / 36524) 3 * 36524

/-- What is left of it, once the years before its own are taken away. -/
def dayOfItsYear (day : Nat) : Nat :=
  dayOfCentury day % 1461 - min (dayOfCentury day % 1461 / 365) 3 * 365

/-- The year of an era that a day of the era belongs to. -/
def yearOfEra (day : Nat) : Nat :=
  min (day / 36524) 3 * 100 + dayOfCentury day / 1461 * 4 + min (dayOfCentury day % 1461 / 365) 3

theorem dayOfCentury_lt {day : Nat} (h : day < 146097) :
    dayOfCentury day < if min (day / 36524) 3 = 3 then 36525 else 36524 := by
  unfold dayOfCentury
  split <;> omega

theorem min_div_mul_le (n k most : Nat) : min (n / k) most * k ≤ n :=
  (Nat.mul_le_mul_right k (min_le_left _ _)).trans (Nat.div_mul_le_self n k)

theorem eraDay_yearOfEra {day : Nat} (h : day < 146097) :
    eraDay (yearOfEra day) (dayOfItsYear day) = day := by
  have hlt := dayOfCentury_lt h
  have hcycle : dayOfCentury day / 1461 ≤ 24 := by
    split at hlt <;> omega
  rw [yearOfEra, eraDay_parts hcycle (min_le_right _ _), dayOfItsYear,
    Nat.add_sub_of_le (min_div_mul_le _ _ _), Nat.div_add_mod', dayOfCentury,
    Nat.add_sub_of_le (min_div_mul_le _ _ _)]

theorem isDayOf_yearOfEra {day : Nat} (h : day < 146097) :
    IsDayOf (yearOfEra day) (dayOfItsYear day) := by
  have hlt := dayOfCentury_lt h
  have hle : min (day / 36524) 3 ≤ 3 := min_le_right _ _
  unfold IsDayOf yearOfEra dayOfItsYear
  generalize dayOfCentury day = rest at hlt
  generalize min (day / 36524) 3 = century at hlt hle
  by_cases hleap : rest % 1461 = 1460
  · split at hlt <;> omega
  · split at hlt <;> omega

/-- The month that lies so many months after a March. -/
def monthAfterMarch (m : Nat) : Nat := if m < 10 then m + 3 else m - 9

theorem monthAfterMarch_spec {m : Nat} (h : m ≤ 11) :
    1 ≤ monthAfterMarch m ∧ monthAfterMarch m ≤ 12 ∧ marchMonth (monthAfterMarch m) = m := by
  interval_cases m <;> decide

/-- A month lasts until the next one starts, but for the leap day at the end of February. -/
theorem le_monthLength (y : Int) {m : Nat} (h : m ≤ 11) :
    min ((153 * (m + 1) + 2) / 5) 365 ≤
      (153 * m + 2) / 5 + monthLength y (monthAfterMarch m) := by
  unfold monthLength
  generalize isLeapYear y = leap
  interval_cases m <;> revert leap <;> decide

namespace Date

/-- The date of a day of a year that begins with March. -/
def ofYearDay (year : Int) (day : Nat) : Date :=
  let month := monthAfterMarch ((5 * day + 2) / 153)
  ⟨if month ≤ 2 then year + 1 else year, month,
    day - (153 * ((5 * day + 2) / 153) + 2) / 5 + 1⟩

variable {year : Int} {day : Nat}

theorem dayOfYear_ofYearDay (h : day ≤ 365) :
    dayOfYear (ofYearDay year day).month (ofYearDay year day).day = day := by
  obtain ⟨-, -, hmonth⟩ := monthAfterMarch_spec (m := (5 * day + 2) / 153) (by omega)
  unfold ofYearDay
  dsimp only
  rw [dayOfYear_eq, hmonth]
  omega

theorem marchYear_ofYearDay : (ofYearDay year day).marchYear = year := by
  unfold ofYearDay marchYear
  dsimp only
  split <;> omega

/-- The last day of a year that begins with March is a leap day. -/
theorem real_ofYearDay (h : day ≤ 364 ∨ day = 365 ∧ isLeapYear (year + 1) = true) :
    (ofYearDay year day).Real := by
  have hm : (5 * day + 2) / 153 ≤ 11 := by omega
  obtain ⟨hlow, hhigh, -⟩ := monthAfterMarch_spec hm
  refine ⟨hlow, hhigh, Nat.le_add_left 1 _, ?_⟩
  rcases h with h | ⟨rfl, hleap⟩
  · have hlength := le_monthLength (ofYearDay year day).year hm
    unfold ofYearDay at hlength ⊢
    dsimp only at hlength ⊢
    omega
  · simp [ofYearDay, monthAfterMarch, monthLength, hleap]

theorem ofDays_eq (days : Int) :
    ofDays days = ofYearDay
      ((days + epochShift) / eraDays * 400 + yearOfEra ((days + epochShift) % eraDays).toNat)
      (dayOfItsYear ((days + epochShift) % eraDays).toNat) := by
  unfold ofDays ofYearDay yearOfEra
  push_cast
  rw [← add_assoc, ← add_assoc]
  rfl

theorem isDayOf_ofDays (days : Int) :
    IsDayOf (yearOfEra ((days + epochShift) % eraDays).toNat)
      (dayOfItsYear ((days + epochShift) % eraDays).toNat) := by
  apply isDayOf_yearOfEra
  unfold eraDays
  omega

/-- Every day has a date of the calendar. -/
theorem real_ofDays (days : Int) : (ofDays days).Real := by
  obtain ⟨hyear, hday⟩ := isDayOf_ofDays days
  rw [ofDays_eq]
  refine real_ofYearDay (hday.imp_right fun ⟨hlast, hleap⟩ => ⟨hlast, ?_⟩)
  rw [isLeapYear_iff]
  omega

/-- Every day is found again from its date. -/
theorem toDays_ofDays (days : Int) : (ofDays days).toDays = days := by
  have hyear := isDayOf_ofDays days
  have hday : dayOfItsYear ((days + epochShift) % eraDays).toNat ≤ 365 := by
    obtain ⟨-, hday⟩ := hyear
    omega
  have hrest : ((days + epochShift) % eraDays).toNat < 146097 := by
    unfold eraDays
    omega
  have hcount := toDays_eq (ofDays days)
  rw [ofDays_eq, marchYear_ofYearDay, dayOfYear_ofYearDay hday] at hcount
  rw [ofDays_eq]
  have hera : ((days + epochShift) / eraDays * 400 +
      (yearOfEra ((days + epochShift) % eraDays).toNat : Int)) % 400 =
        yearOfEra ((days + epochShift) % eraDays).toNat := by
    have := hyear.1
    omega
  rw [hera, Int.toNat_natCast, eraDay_yearOfEra hrest] at hcount
  have := hyear.1
  unfold eraDays at *
  omega

/-! ## The years of timestamps -/

/-- The years from -9999 to 9999 run from one day to another. -/
theorem Real.toDays_bounds {d : Date} (h : d.Real) (hyear : d.year.natAbs ≤ 9999) :
    -4371587 ≤ d.toDays ∧ d.toDays < 2932897 := by
  have hcount := toDays_eq d
  have hday := dayOfYear_eq d.month d.day
  have hlength := monthLength_le d.year h.1 h.2.1
  obtain ⟨hmonth, hmonth', hfirst, hlast⟩ := h
  unfold eraDay marchYear epochShift eraDays at hcount
  unfold marchMonth at hday hlength
  split at hcount
  · next hwinter =>
    rw [if_neg (Nat.not_lt.mpr hwinter)] at hday hlength
    have hera : -25 ≤ (d.year - 1) / 400 ∧ (d.year - 1) / 400 ≤ 24 := by omega
    omega
  · next hsummer =>
    rw [if_pos (Nat.lt_of_not_le hsummer)] at hday hlength
    have hera : -25 ≤ d.year / 400 ∧ d.year / 400 ≤ 24 := by omega
    omega

end Date

end AccountRegistry.Time
