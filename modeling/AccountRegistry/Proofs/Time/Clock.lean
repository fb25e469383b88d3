import AccountRegistry.Proofs.Result
import AccountRegistry.Proofs.Time.Calendar
import AccountRegistry.Time.Timestamp

/-! # Clocks

A timestamp shows the clock that it was made from. Whether it can be written depends on the year of
that clock and on the offset alone.
-/

namespace AccountRegistry.Timestamp

open Time

/-- A time that a clock can show. -/
def Clock.Real (c : Clock) : Prop :=
  c.date.Real ∧ c.hour < 24 ∧ c.minute < 60 ∧ c.second < 60 ∧ c.nano < 1000000000

instance (c : Clock) : Decidable c.Real := inferInstanceAs (Decidable (_ ∧ _))

theorem ofClock_nanos (c : Clock) (offset : Int) :
    (ofClock c offset).nanos = (c.seconds - offset * 60) * nanosPerSecond + c.nano := rfl

theorem ofClock_offset (c : Clock) (offset : Int) : (ofClock c offset).offset = offset := rfl

/-- A timestamp shows the clock it was made from, at its own offset. -/
theorem clock_ofClock {c : Clock} (h : c.Real) (offset : Int) : (ofClock c offset).clock = c := by
  obtain ⟨hdate, hhour, hminute, hsecond, hnano⟩ := h
  have hseconds : (ofClock c offset).nanos / nanosPerSecond + offset * 60 = c.seconds := by
    rw [ofClock_nanos]
    unfold nanosPerSecond
    omega
  have hfraction : ((ofClock c offset).nanos % nanosPerSecond).toNat = c.nano := by
    rw [ofClock_nanos]
    unfold nanosPerSecond
    omega
  have hday : c.seconds / 86400 = c.date.toDays := by
    unfold Clock.seconds
    omega
  have hofDay : (c.seconds % 86400).toNat = (c.hour * 60 + c.minute) * 60 + c.second := by
    unfold Clock.seconds
    omega
  have hhours : ((c.hour * 60 + c.minute) * 60 + c.second) / 3600 = c.hour := by omega
  have hminutes : ((c.hour * 60 + c.minute) * 60 + c.second) / 60 % 60 = c.minute := by omega
  have hrest : ((c.hour * 60 + c.minute) * 60 + c.second) % 60 = c.second := by omega
  unfold clock
  rw [hfraction, ofClock_offset, hseconds]
  dsimp only
  rw [hday, hofDay, Date.ofDays_toDays hdate, hhours, hminutes, hrest]

theorem real_clock (t : Timestamp) : t.clock.Real := by
  refine ⟨Date.real_ofDays _, ?_⟩
  unfold clock nanosPerSecond
  dsimp only
  omega

theorem seconds_clock (t : Timestamp) :
    t.clock.seconds = t.nanos / nanosPerSecond + t.offset * 60 := by
  unfold Clock.seconds clock
  dsimp only
  rw [Date.toDays_ofDays]
  omega

/-- A timestamp is made again from the clock that it shows. -/
theorem ofClock_clock (t : Timestamp) : ofClock t.clock t.offset = t := by
  unfold ofClock
  rw [seconds_clock]
  unfold clock nanosPerSecond
  dsimp only
  congr
  omega

/-- The instants of the years -9999 to 9999. -/
theorem inRange_of_year {t : Timestamp} (h : (clock ⟨t.nanos, 0⟩).date.year.natAbs ≤ 9999) :
    InRange t.nanos := by
  have hreal := real_clock ⟨t.nanos, 0⟩
  have hseconds := seconds_clock ⟨t.nanos, 0⟩
  have hdays := hreal.1.toDays_bounds h
  obtain ⟨-, hhour, hminute, hsecond, -⟩ := hreal
  unfold Clock.seconds at hseconds
  unfold nanosPerSecond at hseconds
  unfold InRange nanosPerSecond
  dsimp only at hseconds
  omega

/-- What the written form has room for. -/
def Writable (t : Timestamp) : Prop :=
  (0 ≤ t.clock.date.year ∧ t.clock.date.year ≤ 9999) ∧ t.offset.natAbs / 60 ≤ 23

instance (t : Timestamp) : Decidable t.Writable := inferInstanceAs (Decidable (_ ∧ _))

theorem exists_text_iff {t : Timestamp} : (∃ s, t.text = .ok s) ↔ t.Writable := by
  simp only [text, map_eq_ok_iff]
  unfold chars Writable
  dsimp only
  split
  · next hyear =>
    refine iff_of_false nofun ?_
    omega
  · next hyear =>
    split
    · next hoffset =>
      refine iff_of_false nofun ?_
      omega
    · next hoffset => exact iff_of_true ⟨_, _, rfl, rfl⟩ (by omega)

end AccountRegistry.Timestamp
