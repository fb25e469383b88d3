import AccountRegistry.Proofs.Time.Calendar
import Mathlib.Algebra.BigOperators.Intervals

/-! # Days counted one year and one month after the other

The days before a date are those of the years before its own, of the months before its own, and of
its month before it. The count by eras agrees with this one.
-/

namespace AccountRegistry.Time

open Finset

/-! ## Whole months and whole years -/

/-- Days from the start of a year to the start of a month. -/
def daysBeforeMonth (y : Int) (month : Nat) : Nat := ∑ m ∈ Ico 1 month, monthLength y m

/-- Days of the twelve months. -/
def yearLength (y : Int) : Nat := daysBeforeMonth y 13

/-- Days from the start of year 0 to the start of a year. -/
def daysBeforeYear (year : Nat) : Nat := ∑ y ∈ range year, yearLength y

/-- A fourth year has a leap day, one that ends a century has none, a fourth of these has one. -/
theorem yearLength_eq (y : Int) :
    yearLength y + (if y % 100 = 0 then 1 else 0) =
      365 + (if y % 4 = 0 then 1 else 0) + (if y % 400 = 0 then 1 else 0) := by
  have hlength : yearLength y = if isLeapYear y then 366 else 365 := by
    unfold yearLength daysBeforeMonth monthLength
    generalize isLeapYear y = leap
    cases leap <;> rfl
  simp only [hlength, Date.isLeapYear_iff]
  split_ifs <;> omega

/-- Multiples below a number, counted from 0 on. -/
theorem succ_add_div (y k : Nat) :
    (y + 1 + k) / (k + 1) = (y + k) / (k + 1) + if y % (k + 1) = 0 then 1 else 0 := by
  rw [Nat.add_right_comm, Nat.succ_div]
  simp only [Nat.dvd_iff_mod_eq_zero, Nat.add_assoc, Nat.add_mod_right]

theorem daysBeforeYear_eq (y : Nat) :
    daysBeforeYear y + (y + 99) / 100 = 365 * y + (y + 3) / 4 + (y + 399) / 400 := by
  induction y with
  | zero => rfl
  | succ y ih =>
    have hstep : daysBeforeYear (y + 1) = daysBeforeYear y + yearLength y := sum_range_succ _ y
    have hlength : yearLength y + (if y % 100 = 0 then 1 else 0) =
        365 + (if y % 4 = 0 then 1 else 0) + (if y % 400 = 0 then 1 else 0) :=
      mod_cast yearLength_eq y
    have hfour : (y + 1 + 3) / 4 = (y + 3) / 4 + if y % 4 = 0 then 1 else 0 := succ_add_div y 3
    have hhundred : (y + 1 + 99) / 100 = (y + 99) / 100 + if y % 100 = 0 then 1 else 0 :=
      succ_add_div y 99
    have hlast : (y + 1 + 399) / 400 = (y + 399) / 400 + if y % 400 = 0 then 1 else 0 :=
      succ_add_div y 399
    omega

/-- January and February are the last months before March. -/
theorem dayOfYear_of_le_two (y : Int) {month day : Nat} (h : 1 ≤ month) (h' : month ≤ 2)
    (hday : 1 ≤ day) : dayOfYear month day = 306 + daysBeforeMonth y month + (day - 1) := by
  have hmonths : (153 * marchMonth month + 2) / 5 = 306 + daysBeforeMonth y month := by
    interval_cases month <;> rfl
  rw [dayOfYear_eq]
  omega

/-- The months from March on come after January and February, and after a leap day if there is one.
-/
theorem dayOfYear_of_two_lt (y : Int) {month day : Nat} (h : 2 < month) (h' : month ≤ 12)
    (hday : 1 ≤ day) : dayOfYear month day + yearLength y =
      306 + daysBeforeMonth y month + (day - 1) := by
  have hmonths : (153 * marchMonth month + 2) / 5 + yearLength y =
      306 + daysBeforeMonth y month := by
    unfold yearLength daysBeforeMonth monthLength
    generalize isLeapYear y = leap
    interval_cases month <;> cases leap <;> rfl
  rw [dayOfYear_eq]
  omega

/-! ## Dates -/

namespace Date

/-- Days from the first of January of year 0. -/
def dayNumber (d : Date) : Nat :=
  daysBeforeYear d.year.toNat + daysBeforeMonth d.year d.month + (d.day - 1)

/-- The first of January 1970. -/
def epoch : Date := ⟨1970, 1, 1⟩

theorem dayNumber_epoch : epoch.dayNumber = 719528 := by
  have hyear : epoch.year.toNat = 1970 := rfl
  have hmonth : daysBeforeMonth epoch.year epoch.month = 0 := rfl
  have hday : epoch.day - 1 = 0 := rfl
  have hyears := daysBeforeYear_eq epoch.year.toNat
  rw [dayNumber, hmonth, hday]
  omega

/-- The days of a date are those counted from year 0, less those up to the start of 1970. -/
theorem toDays_eq_dayNumber {d : Date} (h : d.Real) (hyear : 0 ≤ d.year) :
    d.toDays = d.dayNumber - epoch.dayNumber := by
  obtain ⟨hmonth, hmonth', hday, -⟩ := h
  have hdays := toDays_eq d
  have hyears := daysBeforeYear_eq d.year.toNat
  have hlength := yearLength_eq d.year
  rw [dayNumber_epoch, dayNumber]
  unfold epochShift eraDays marchYear eraDay at hdays
  by_cases hspring : d.month ≤ 2
  · have hofYear := dayOfYear_of_le_two d.year hmonth hspring hday
    rw [if_pos hspring] at hdays
    omega
  · have hofYear := dayOfYear_of_two_lt d.year (by omega) hmonth' hday
    rw [if_neg hspring] at hdays
    split_ifs at hlength <;> omega

end Date

end AccountRegistry.Time
