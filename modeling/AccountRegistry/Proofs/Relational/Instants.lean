import AccountRegistry.Proofs.Time.Reading
import AccountRegistry.Relational.Row

/-! # Instants of rows

A timestamp that was read from a text becomes an instant of a row without loss, and keeps its place
among others. Back from a row, an instant is kept within the years of timestamps; beyond them its
seconds are lost.
-/

namespace AccountRegistry

open Time

/-- What fits into a row: whole seconds within the bounds of a database client. -/
def Timestamp.FitsRow (t : Timestamp) : Prop :=
  -8334601228800 ≤ t.nanos / nanosPerSecond ∧ t.nanos / nanosPerSecond ≤ 8210266876799

namespace Timestamp

/-- Every timestamp that a text stands for fits into a row, whatever its year and offset. -/
theorem fitsRow_of_ofText {s : String} {t : Timestamp} (h : ofText s = .ok t) : t.FitsRow := by
  obtain ⟨c, offset, rfl, hreal, hyear, -, hoffset, -⟩ :=
    shownIn_of_readTrimmed (ofText_eq_ok_iff.mp h)
  have hdays := hreal.1.toDays_bounds hyear
  obtain ⟨-, hhour, hminute, hsecond, hnano⟩ := hreal
  unfold FitsRow
  rw [ofClock_nanos]
  unfold Clock.seconds
  unfold nanosPerSecond
  unfold maxOffset at hoffset
  constructor <;> omega

theorem fitsRow_of_inRange {t : Timestamp} (h : InRange t.nanos) : t.FitsRow := by
  unfold InRange at h
  unfold FitsRow
  unfold nanosPerSecond at *
  omega

/-- The second in which an instant lies begins in the years of timestamps too. -/
theorem inRange_second {nanos : Int} (h : InRange nanos) :
    InRange (nanos / nanosPerSecond * nanosPerSecond) := by
  unfold InRange at *
  unfold nanosPerSecond at *
  omega

end Timestamp

namespace RowInstant

open Timestamp

variable {t u : Timestamp} {i : RowInstant}

/-! ## To instants -/

theorem seconds_ofTimestamp (h : t.FitsRow) : (ofTimestamp t).seconds = t.nanos / nanosPerSecond :=
  congrArg RowInstant.seconds (dif_pos h)

theorem nanos_ofTimestamp (h : t.FitsRow) :
    ((ofTimestamp t).nanos : Int) = t.nanos % nanosPerSecond := by
  have hnanos : (ofTimestamp t).nanos = (t.nanos % nanosPerSecond).toNat :=
    congrArg RowInstant.nanos (dif_pos h)
  rw [hnanos]
  exact Int.toNat_of_nonneg (Int.emod_nonneg _ (by decide))

/-- Nothing of an instant is lost, before 1970 as after. -/
theorem toNanos_ofTimestamp (h : t.FitsRow) : (ofTimestamp t).toNanos = t.nanos := by
  unfold toNanos
  rw [seconds_ofTimestamp h, nanos_ofTimestamp h]
  exact Int.ediv_mul_add_emod t.nanos nanosPerSecond

/-- Instants in their order, the nanoseconds of a leap second behind those of the second it ends. -/
def compare (i j : RowInstant) : Ordering :=
  (Ord.compare i.seconds j.seconds).then (Ord.compare i.nanos j.nanos)

theorem compare_eq_lt_iff {i j : RowInstant} :
    compare i j = .lt ↔ i.seconds < j.seconds ∨ i.seconds = j.seconds ∧ i.nanos < j.nanos := by
  unfold compare
  rw [Ordering.then_eq_lt, Int.compare_eq_lt, Int.compare_eq_eq, Nat.compare_eq_lt]

theorem compare_eq_gt_iff {i j : RowInstant} :
    compare i j = .gt ↔ j.seconds < i.seconds ∨ i.seconds = j.seconds ∧ j.nanos < i.nanos := by
  unfold compare
  rw [Ordering.then_eq_gt, Int.compare_eq_gt, Int.compare_eq_eq, Nat.compare_eq_gt]

/-- Instants of rows stand in the order of the timestamps that they were made from. -/
theorem compare_ofTimestamp (ht : t.FitsRow) (hu : u.FitsRow) :
    compare (ofTimestamp t) (ofTimestamp u) = Timestamp.compare t u := by
  have hseconds := seconds_ofTimestamp ht
  have hseconds' := seconds_ofTimestamp hu
  have hnanos := nanos_ofTimestamp ht
  have hnanos' := nanos_ofTimestamp hu
  unfold nanosPerSecond at *
  unfold Timestamp.compare
  rcases Int.lt_trichotomy t.nanos u.nanos with hlt | heq | hgt
  · rw [Int.compare_eq_lt.mpr hlt, compare_eq_lt_iff]
    omega
  · rw [Int.compare_eq_eq.mpr heq]
    unfold compare
    rw [Ordering.then_eq_eq, Int.compare_eq_eq, Nat.compare_eq_eq]
    omega
  · rw [Int.compare_eq_gt.mpr hgt, compare_eq_gt_iff]
    omega

/-! ## From instants -/

theorem toTimestamp_of_inRange (h : InRange (i.seconds * nanosPerSecond)) :
    i.toTimestamp = ⟨i.toNanos, 0⟩ := by
  unfold toTimestamp toNanos
  rw [if_pos h]

theorem toTimestamp_of_not_inRange (h : ¬ InRange (i.seconds * nanosPerSecond)) :
    i.toTimestamp = ⟨i.nanos, 0⟩ := by
  unfold toTimestamp
  rw [if_neg h]
  simp

/-- An instant beyond the years of timestamps is taken for another one. -/
theorem nanos_ne_of_not_inRange (h : ¬ InRange (i.seconds * nanosPerSecond)) :
    i.toTimestamp.nanos ≠ i.toNanos := by
  rw [toTimestamp_of_not_inRange h]
  intro heq
  apply h
  unfold toNanos at heq
  have hzero : i.seconds * nanosPerSecond = 0 := by
    dsimp only at heq
    omega
  rw [hzero]
  decide

theorem toTimestamp_ofTimestamp (h : InRange t.nanos) :
    (ofTimestamp t).toTimestamp = ⟨t.nanos, 0⟩ := by
  have hfits := fitsRow_of_inRange h
  rw [toTimestamp_of_inRange, toNanos_ofTimestamp hfits]
  rw [seconds_ofTimestamp hfits]
  exact inRange_second h

end RowInstant

end AccountRegistry
