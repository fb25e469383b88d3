import AccountRegistry.Proofs.Time.Spelling

/-! # Written timestamps

The written form of a timestamp is one of the spellings of its clock, so that every timestamp that
can be written is read back from its text, its offset included.
-/

namespace AccountRegistry.Timestamp

open Time

/-! ## Fractions and offsets -/

/-- What is dropped at the end of a text of digits are zeros. -/
theorem exists_append_zeros (ds : List Char) : ∃ count,
    ds = (ds.reverse.dropWhile (· == '0')).reverse ++ List.replicate count '0' := by
  refine ⟨(ds.reverse.takeWhile (· == '0')).length, ?_⟩
  have hzeros : ds.reverse.takeWhile (· == '0') =
      List.replicate (ds.reverse.takeWhile (· == '0')).length '0' := by
    rw [List.eq_replicate_iff]
    exact ⟨rfl, fun c hc => by simpa using List.mem_takeWhile_imp hc⟩
  rw [← List.reverse_replicate, ← hzeros, ← List.reverse_append, List.takeWhile_append_dropWhile,
    List.reverse_reverse]

theorem isFraction_fractionText {nano : Nat} (h : nano < 1000000000) :
    IsFraction (fractionText nano) nano := by
  unfold fractionText
  split
  · next hzero =>
    subst hzero
    exact .whole
  · next hne =>
    have hdigits := isDigits_padded (k := 9) (n := nano) (by decide) h
    obtain ⟨count, hcount⟩ := exists_append_zeros (padded 9 nano)
    generalize ((padded 9 nano).reverse.dropWhile (· == '0')).reverse = kept at hcount ⊢
    have hlength : kept.length + count = 9 := by
      have := hdigits.length
      simpa [hcount] using this
    have hvalue : Nat.ofDigitChars 10 kept 0 * 10 ^ count = nano := by
      have := hdigits.value
      rwa [hcount, Nat.ofDigitChars_append, Nat.ofDigitChars_replicate_zero, Nat.mul_comm] at this
    have hkept : kept ≠ [] := by
      rintro rfl
      exact hne (by simpa using hvalue.symm)
    have hlast : 9 - kept.length = count := by omega
    have hfraction : IsFraction ('.' :: kept)
        (Nat.ofDigitChars 10 kept 0 * 10 ^ (9 - kept.length)) := by
      refine .digits (List.length_pos_iff.mpr hkept) (by omega) ⟨rfl, fun c hc => ?_, rfl⟩
      exact hdigits.digits c (hcount ▸ List.mem_append_left _ hc)
    rwa [hlast, hvalue] at hfraction

theorem isZone_offsetText {offset : Int} (h : offset.natAbs / 60 ≤ 23) :
    IsZone (offsetText offset) offset := by
  have hminute : offset.natAbs % 60 ≤ 59 := by omega
  unfold offsetText
  split
  · next hzero =>
    subst hzero
    exact .utc
  · next hne =>
    split
    · next hneg =>
      have hzone := IsZone.behind h hminute
      have hoffset : -((offset.natAbs / 60 : Nat) * 60 + (offset.natAbs % 60 : Nat) : Int) =
          offset := by
        omega
      rwa [hoffset] at hzone
    · next hpos =>
      have hzone := IsZone.ahead h hminute
      have hoffset : ((offset.natAbs / 60 : Nat) * 60 + (offset.natAbs % 60 : Nat) : Int) =
          offset := by
        omega
      rwa [hoffset] at hzone

/-! ## Whole timestamps -/

/-- The written form is a spelling of the clock that a timestamp shows. -/
theorem spells_chars {t : Timestamp} {cs : List Char} (h : t.chars = .ok cs) :
    t.clock.Civil ∧ Spells cs t.clock t.offset := by
  unfold chars at h
  dsimp only at h
  split at h
  · cases h
  · next hyear =>
    split at h
    · cases h
    · next hoffset =>
      cases h
      refine ⟨⟨t.real_clock, by omega, by omega⟩, ?_⟩
      have hfraction := isFraction_fractionText t.real_clock.2.2.2.2
      have hspells := Spells.zoned hfraction (isZone_offsetText (Nat.le_of_not_lt hoffset))
      simpa [dateText, timeText, minuteText] using hspells

/-- Every timestamp is read back from its text. -/
theorem ofText_of_text {t : Timestamp} {s : String} (h : t.text = .ok s) : ofText s = .ok t := by
  obtain ⟨cs, hcs, rfl⟩ := map_eq_ok_iff.mp h
  obtain ⟨hcivil, hspells⟩ := spells_chars hcs
  have hdenotes : Denotes (String.ofList cs) t.clock t.offset :=
    ⟨[], cs, [], by simp, hspells, List.forall_mem_nil _, List.forall_mem_nil _⟩
  rw [hdenotes.ofText_eq hcivil, ofClock_clock]

end AccountRegistry.Timestamp
