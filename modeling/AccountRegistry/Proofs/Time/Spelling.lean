import AccountRegistry.Proofs.Time.DayCount
import AccountRegistry.Proofs.Time.Digits

/-! # Spellings of a moment

A moment can be written with or without an offset, with a letter or a blank before the time, down to
the second, the minute or the day. Every spelling is read as the same instant, so that timestamps
compare as the moments that they were read from.
-/

namespace AccountRegistry.Timestamp

open Time

variable {cs rest : List Char} {c : Clock}

/-! ## Moments -/

/-- A time of the years that have four digits. -/
structure Clock.Civil (c : Clock) : Prop where
  real : c.Real
  year_nonneg : 0 ≤ c.date.year
  year_le : c.date.year ≤ 9999

instance (c : Clock) : Decidable c.Civil :=
  decidable_of_iff (c.Real ∧ 0 ≤ c.date.year ∧ c.date.year ≤ 9999)
    ⟨fun ⟨hreal, hpos, hle⟩ => ⟨hreal, hpos, hle⟩, fun ⟨hreal, hpos, hle⟩ => ⟨hreal, hpos, hle⟩⟩

/-- Nanoseconds from the start of 1970 in UTC to a time on a clock that many minutes ahead of it. -/
def Clock.instant (c : Clock) (offset : Int) : Int :=
  ((c.date.dayNumber - Date.epoch.dayNumber) * 86400 +
    ((c.hour * 60 + c.minute) * 60 + c.second) - offset * 60) * 1000000000 + c.nano

theorem Clock.Civil.nanos_ofClock (h : c.Civil) (offset : Int) :
    (ofClock c offset).nanos = c.instant offset := by
  have hdays := Date.toDays_eq_dayNumber h.real.1 h.year_nonneg
  rw [ofClock_nanos, Clock.seconds, hdays]
  unfold Clock.instant nanosPerSecond
  omega

/-! ## Texts -/

def dateText (d : Date) : List Char :=
  padded 4 d.year.toNat ++ '-' :: (padded 2 d.month ++ '-' :: padded 2 d.day)

def minuteText (hour minute : Nat) : List Char := padded 2 hour ++ ':' :: padded 2 minute

def timeText (c : Clock) : List Char := minuteText c.hour c.minute ++ ':' :: padded 2 c.second

/-- The texts for an offset in minutes that is less than a day. -/
inductive IsZone : List Char → Int → Prop
  | utc : IsZone ['Z'] 0
  | ahead {h m : Nat} : h ≤ 23 → m ≤ 59 → IsZone ('+' :: minuteText h m) (h * 60 + m)
  | behind {h m : Nat} : h ≤ 23 → m ≤ 59 → IsZone ('-' :: minuteText h m) (-(h * 60 + m))

/-- What may stand between a date and a time without an offset. -/
def IsSeparator (s : Char) : Prop := s = 'T' ∨ s = ' '

/-- The texts for a time on a clock that many minutes ahead of UTC. -/
inductive Spells : List Char → Clock → Int → Prop
  | inUtc {c : Clock} {s : Char} {f : List Char} : IsSeparator s → IsFraction f c.nano →
      Spells (dateText c.date ++ s :: (timeText c ++ f)) c 0
  | zoned {c : Clock} {f z : List Char} {offset : Int} : IsFraction f c.nano → IsZone z offset →
      Spells (dateText c.date ++ 'T' :: (timeText c ++ (f ++ z))) c offset
  | toMinute {d : Date} {h m : Nat} {s : Char} : IsSeparator s →
      Spells (dateText d ++ s :: minuteText h m) ⟨d, h, m, 0, 0⟩ 0
  | midnight {d : Date} : Spells (dateText d) ⟨d, 0, 0, 0, 0⟩ 0

/-! ## Reading the parts -/

theorem literal_cons (d : Char) (rest : List Char) : literal d (d :: rest) = some ((), rest) :=
  if_pos rfl

theorem hourMinute_append {h m : Nat} (hh : h ≤ 23) (hm : m ≤ 59) (rest : List Char) :
    hourMinute (minuteText h m ++ rest) = some ((h, m), rest) := by
  have hours := isDigits_two (n := h) (by omega)
  have minutes := isDigits_two (n := m) (by omega)
  simp [hourMinute, minuteText, literal_cons, hours.pair_append (Nat.zero_le h) hh,
    minutes.pair_append (Nat.zero_le m) hm]

theorem hourMinute_minuteText {h m : Nat} (hh : h ≤ 23) (hm : m ≤ 59) :
    hourMinute (minuteText h m) = some ((h, m), []) := by
  have hread := hourMinute_append hh hm []
  rwa [List.append_nil] at hread

/-- An offset below a day is a time of day behind a sign. -/
theorem signedOffset_eq (cs : List Char) : signedOffset 23 cs =
    (sign cs).bind fun s => (hourMinute s.2).bind fun t =>
      some (signedBy s.1 (t.1.1 * 60 + t.1.2), t.2) := by
  simp [signedOffset, hourMinute, Option.bind_assoc]

theorem signedOffset_minuteText {h m : Nat} (hh : h ≤ 23) (hm : m ≤ 59) (mark : Char)
    (negative : Bool) (hmark : sign (mark :: minuteText h m) = some (negative, minuteText h m)) :
    signedOffset 23 (mark :: minuteText h m) = some (signedBy negative (h * 60 + m), []) := by
  rw [signedOffset_eq, hmark, Option.bind_some, hourMinute_minuteText hh hm]
  rfl

theorem IsZone.zone_eq {z : List Char} {offset : Int} (h : IsZone z offset) :
    zone z = some (offset, []) := by
  cases h with
  | utc => rfl
  | ahead hh hm => exact signedOffset_minuteText hh hm '+' false rfl
  | behind hh hm => exact signedOffset_minuteText hh hm '-' true rfl

theorem endsFraction_nil : EndsFraction [] := by
  rintro c ⟨_, ⟨⟩⟩

theorem IsZone.endsFraction {z : List Char} {offset : Int} (h : IsZone z offset) :
    EndsFraction z := by
  intro c hc
  cases h with
  | utc | ahead | behind =>
    obtain rfl := (List.cons_prefix_cons.mp hc).1
    decide

theorem IsFraction.optionalFraction_eq {f : List Char} {n : Nat} (h : IsFraction f n) :
    optionalFraction f = some (n, []) := by
  have hread := h.optionalFraction_append endsFraction_nil
  rwa [List.append_nil] at hread

/-! ## Reading dates and times -/

namespace Clock.Civil

variable (h : c.Civil)

include h

theorem hour_le : c.hour ≤ 23 := Nat.le_of_lt_succ h.real.2.1

theorem minute_le : c.minute ≤ 59 := Nat.le_of_lt_succ h.real.2.2.1

theorem second_lt : c.second < 60 := h.real.2.2.2.1

theorem day_le : c.date.day ≤ 31 := by
  have hlength : monthLength c.date.year c.date.month ≤ 31 := by
    unfold monthLength
    split_ifs <;> decide
  exact h.real.1.2.2.2.trans hlength

theorem year_digits : IsDigits 4 (padded 4 c.date.year.toNat) c.date.year.toNat :=
  isDigits_padded (by decide) (by have := h.year_le; omega)

theorem month_digits : IsDigits 2 (padded 2 c.date.month) c.date.month :=
  isDigits_two (h.real.1.2.1.trans (by decide))

theorem day_digits : IsDigits 2 (padded 2 c.date.day) c.date.day :=
  isDigits_two (h.day_le.trans (by decide))

theorem second_digits : IsDigits 2 (padded 2 c.second) c.second :=
  isDigits_two (h.second_lt.le.trans (by decide))

theorem length_dateText : (dateText c.date).length = 10 := by
  simp [dateText, h.year_digits.length, h.month_digits.length, h.day_digits.length]

theorem dateParts_append (rest : List Char) :
    dateParts (dateText c.date ++ rest) = .ok (c.date, rest) := by
  obtain ⟨hmonth, hmonth', hday, -⟩ := h.real.1
  have hyear : ((c.date.year.toNat : Nat) : Int) = c.date.year := Int.toNat_of_nonneg h.year_nonneg
  unfold dateParts dateText
  simp only [List.append_assoc, List.cons_append]
  refine bind_eq_ok_iff.mpr ⟨_, expect_eq_ok_iff.mpr (h.year_digits.year_append _), ?_⟩
  refine bind_eq_ok_iff.mpr ⟨_, expect_eq_ok_iff.mpr (literal_cons '-' _), ?_⟩
  refine bind_eq_ok_iff.mpr
    ⟨_, expect_eq_ok_iff.mpr (h.month_digits.pair_append hmonth hmonth' _), ?_⟩
  refine bind_eq_ok_iff.mpr ⟨_, expect_eq_ok_iff.mpr (literal_cons '-' _), ?_⟩
  refine bind_eq_ok_iff.mpr
    ⟨_, expect_eq_ok_iff.mpr (h.day_digits.pair_append hday h.day_le _), ?_⟩
  rw [hyear]
  rfl

theorem dateParts_dateText : dateParts (dateText c.date) = .ok (c.date, []) := by
  have hread := h.dateParts_append []
  rwa [List.append_nil] at hread

theorem dated_append {α : Type} (time : Part α) (rest : List Char) :
    dated time (dateText c.date ++ 'T' :: rest) =
      (time rest).bind fun x => if x.2.isEmpty then some (c.date, x.1) else none := by
  have hdate := toOption_eq_some_iff.mpr (h.dateParts_append ('T' :: rest))
  simp [dated, hdate, literal_cons, h.real.1]

theorem dated_dateText {α : Type} (time : Part α) : dated time (dateText c.date) = none := by
  have hdate := toOption_eq_some_iff.mpr h.dateParts_dateText
  simp [dated, hdate, literal]

/-- The form with an offset takes any ASCII character before the time. -/
theorem full_append {sep : Char} (hsep : sep.toNat < 0x80) (rest : List Char) :
    full (dateText c.date ++ sep :: rest) =
      (timeOfDay rest).bind fun t => (optionalFraction t.2).bind fun n => (zone n.2).bind fun z =>
        if z.2.isEmpty then withLeapSecond ⟨c.date, t.1.1, t.1.2.1, t.1.2.2, n.1⟩ z.1
        else none := by
  obtain ⟨hmonth, hmonth', hday, -⟩ := h.real.1
  have hyear : ((c.date.year.toNat : Nat) : Int) = c.date.year := Int.toNat_of_nonneg h.year_nonneg
  simp [full, dateText, h.year_digits.digits_append, h.month_digits.pair_append hmonth hmonth',
    h.day_digits.pair_append hday h.day_le, literal_cons, hsep, hyear, h.real.1]

theorem full_dateText : full (dateText c.date) = none := by
  obtain ⟨hmonth, hmonth', hday, -⟩ := h.real.1
  have hend := h.day_digits.pair_append hday h.day_le []
  rw [List.append_nil] at hend
  simp [full, dateText, h.year_digits.digits_append, h.month_digits.pair_append hmonth hmonth',
    hend, literal_cons]

theorem timeOfDay_append (rest : List Char) :
    timeOfDay (timeText c ++ rest) = some ((c.hour, c.minute, c.second), rest) := by
  simp [timeOfDay, timeText, literal_cons, hourMinute_append h.hour_le h.minute_le,
    h.second_digits.pair_append (Nat.zero_le _) h.second_lt.le]

theorem timeOfDay_minuteText : timeOfDay (minuteText c.hour c.minute) = none := by
  simp [timeOfDay, hourMinute_minuteText h.hour_le h.minute_le, literal]

theorem withLeapSecond_eq (offset : Int) : withLeapSecond c offset = some (ofClock c offset) :=
  if_neg h.second_lt.ne

/-! ## Reading whole texts -/

theorem blankToT_append {s : Char} (hs : IsSeparator s) (rest : List Char) :
    blankToT (dateText c.date ++ s :: rest) = dateText c.date ++ 'T' :: rest := by
  unfold blankToT
  rw [List.drop_left' h.length_dateText, List.take_left' h.length_dateText]
  rcases hs with rfl | rfl <;> rfl

theorem full_zoned {f z : List Char} {offset : Int} (hf : IsFraction f c.nano)
    (hz : IsZone z offset) :
    full (dateText c.date ++ 'T' :: (timeText c ++ (f ++ z))) = some (ofClock c offset) := by
  rw [h.full_append (by decide), h.timeOfDay_append, Option.bind_some,
    hf.optionalFraction_append hz.endsFraction, Option.bind_some, hz.zone_eq, Option.bind_some]
  exact h.withLeapSecond_eq offset

/-- A text without an offset is left to the forms that have none. -/
theorem full_inUtc {s : Char} {f : List Char} (hs : IsSeparator s) (hf : IsFraction f c.nano) :
    full (dateText c.date ++ s :: (timeText c ++ f)) = none := by
  have hascii : s.toNat < 0x80 := by rcases hs with rfl | rfl <;> decide
  rw [h.full_append hascii, h.timeOfDay_append, Option.bind_some, hf.optionalFraction_eq]
  rfl

theorem full_toMinute {s : Char} (hs : IsSeparator s) :
    full (dateText c.date ++ s :: minuteText c.hour c.minute) = none := by
  have hascii : s.toNat < 0x80 := by rcases hs with rfl | rfl <;> decide
  rw [h.full_append hascii, h.timeOfDay_minuteText]
  rfl

theorem localTime_timeText {f : List Char} (hf : IsFraction f c.nano) :
    localTime (dateText c.date ++ 'T' :: (timeText c ++ f)) = some (ofClock c 0) := by
  have hsecond : c.second ≠ 60 := h.second_lt.ne
  simp [localTime, h.dated_append, h.timeOfDay_append, hf.optionalFraction_eq, hsecond]

theorem localTime_minuteText :
    localTime (dateText c.date ++ 'T' :: minuteText c.hour c.minute) =
      some (ofClock ⟨c.date, c.hour, c.minute, 0, 0⟩ 0) := by
  simp [localTime, h.dated_append, h.timeOfDay_minuteText,
    hourMinute_minuteText h.hour_le h.minute_le]

theorem readTrimmed_dateText :
    readTrimmed (dateText c.date) = .ok (ofClock ⟨c.date, 0, 0, 0, 0⟩ 0) := by
  have hblank : blankToT (dateText c.date) = dateText c.date := by
    unfold blankToT
    rw [List.drop_of_length_le h.length_dateText.le]
  have hbare : bareDate (dateText c.date) = .ok c.date :=
    bind_eq_ok_iff.mpr ⟨_, h.dateParts_dateText, if_pos h.real.1⟩
  simp [readTrimmed, hblank, h.full_dateText, localTime, offsetTime, h.dated_dateText, hbare]
  rfl

end Clock.Civil

/-- No form takes a text that an earlier one should have read. -/
theorem Spells.readTrimmed_eq {offset : Int} (h : Spells cs c offset) (hc : c.Civil) :
    readTrimmed cs = .ok (ofClock c offset) := by
  cases h with
  | inUtc hs hf =>
    unfold readTrimmed
    rw [hc.full_inUtc hs hf, hc.blankToT_append hs, hc.localTime_timeText hf]
    rfl
  | zoned hf hz =>
    unfold readTrimmed
    rw [hc.full_zoned hf hz]
    rfl
  | toMinute hs =>
    unfold readTrimmed
    rw [hc.full_toMinute hs, hc.blankToT_append hs, hc.localTime_minuteText]
    rfl
  | midnight => exact hc.readTrimmed_dateText

/-! ## Blanks around a text -/

/-- A text whose last character is no blank. -/
def EndsPlain (cs : List Char) : Prop := ∃ d, [d] <:+ cs ∧ Text.isBlank d = false

theorem EndsPlain.of_suffix {ending : List Char} (h : EndsPlain ending) (hcs : ending <:+ cs) :
    EndsPlain cs := by
  obtain ⟨d, hd, hplain⟩ := h
  exact ⟨d, hd.trans hcs, hplain⟩

theorem IsDigits.endsPlain {k n : Nat} {ds : List Char} (h : IsDigits (k + 1) ds n) :
    EndsPlain ds := by
  obtain ⟨d, hd, hdigit⟩ := h.last
  exact ⟨d, hd, Text.isBlank_of_isDigit hdigit⟩

theorem EndsPlain.append_cons {ending : List Char} (h : EndsPlain ending) (start : List Char)
    (s : Char) : EndsPlain (start ++ s :: ending) :=
  h.of_suffix ((List.suffix_cons s ending).trans (List.suffix_append start _))

theorem endsPlain_minuteText {h m : Nat} (hm : m ≤ 59) : EndsPlain (minuteText h m) :=
  (isDigits_two (hm.trans (by decide))).endsPlain.append_cons _ ':'

theorem IsZone.endsPlain {z : List Char} {offset : Int} (h : IsZone z offset) : EndsPlain z := by
  cases h with
  | utc => exact ⟨'Z', List.suffix_refl _, by decide⟩
  | ahead _ hm => exact (endsPlain_minuteText hm).of_suffix (List.suffix_cons _ _)
  | behind _ hm => exact (endsPlain_minuteText hm).of_suffix (List.suffix_cons _ _)

theorem Clock.Civil.endsPlain_timeText (h : c.Civil) {f : List Char} {n : Nat}
    (hf : IsFraction f n) : EndsPlain (timeText c ++ f) := by
  cases hf with
  | whole =>
    rw [List.append_nil]
    exact h.second_digits.endsPlain.append_cons _ ':'
  | @digits k _ _ hk _ hds =>
    obtain ⟨k, rfl⟩ := Nat.exists_eq_add_of_le' hk
    exact hds.endsPlain.append_cons _ '.'

theorem Spells.endsPlain {offset : Int} (h : Spells cs c offset) (hc : c.Civil) :
    EndsPlain cs := by
  cases h with
  | inUtc _ hf => exact (hc.endsPlain_timeText hf).append_cons _ _
  | zoned _ hz =>
    exact (hz.endsPlain.of_suffix
      ((List.suffix_append _ _).trans (List.suffix_append _ _))).append_cons _ _
  | toMinute => exact (endsPlain_minuteText hc.minute_le).append_cons _ _
  | midnight => exact (hc.day_digits.endsPlain.append_cons _ '-').append_cons _ '-'

theorem Spells.date_prefix {offset : Int} (h : Spells cs c offset) : dateText c.date <+: cs := by
  cases h with
  | inUtc | zoned | toMinute => exact List.prefix_append _ _
  | midnight => exact List.prefix_refl _

/-- A text that spells a time, perhaps with blanks around it. -/
def Denotes (s : String) (c : Clock) (offset : Int) : Prop :=
  ∃ before core after, s.toList = before ++ core ++ after ∧ Spells core c offset ∧
    (∀ c ∈ before, Text.isBlank c = true) ∧ ∀ c ∈ after, Text.isBlank c = true

theorem Denotes.ofText_eq {s : String} {offset : Int} (h : Denotes s c offset) (hc : c.Civil) :
    ofText s = .ok (ofClock c offset) := by
  obtain ⟨before, core, after, hs, hspells, hbefore, hafter⟩ := h
  obtain ⟨first, hfirst, hdigit⟩ := hc.year_digits.head
  obtain ⟨last, hlast, hplain⟩ := hspells.endsPlain hc
  have htrim : Text.trim s.toList = core := by
    rw [hs]
    exact Text.trim_of_ends
      ((hfirst.trans (List.prefix_append _ _)).trans hspells.date_prefix)
      (Text.isBlank_of_isDigit hdigit) hlast hplain hbefore hafter
  rw [ofText_eq_ok_iff, read, htrim]
  exact hspells.readTrimmed_eq hc

/-- Every spelling of a civil time is read as its instant, and what is read compares as these
instants do. -/
theorem spellings_read_as_instants :
    (∀ (s : String) (c : Clock) (offset : Int), c.Civil → Denotes s c offset →
      ∃ t, ofText s = .ok t ∧ t.nanos = c.instant offset) ∧
    ∀ (s s' : String) (c c' : Clock) (offset offset' : Int) (t t' : Timestamp),
      c.Civil → c'.Civil → Denotes s c offset → Denotes s' c' offset' →
      ofText s = .ok t → ofText s' = .ok t' →
        t.compare t' = Ord.compare (c.instant offset) (c'.instant offset') ∧
        (t.compare t' = .eq ↔ c.instant offset = c'.instant offset') := by
  have hread {s : String} {c : Clock} {offset : Int} (hc : c.Civil) (h : Denotes s c offset) :
      ∃ t, ofText s = .ok t ∧ t.nanos = c.instant offset :=
    ⟨_, h.ofText_eq hc, hc.nanos_ofClock offset⟩
  refine ⟨fun s c offset hc h => hread hc h, ?_⟩
  intro s s' c c' offset offset' t t' hc hc' h h' ht ht'
  obtain ⟨_, hs, hnanos⟩ := hread hc h
  obtain ⟨_, hs', hnanos'⟩ := hread hc' h'
  obtain rfl := Except.ok.inj (hs.symm.trans ht)
  obtain rfl := Except.ok.inj (hs'.symm.trans ht')
  rw [Timestamp.compare, hnanos, hnanos']
  exact ⟨rfl, Int.compare_eq_eq⟩

/-- The last evening of a February in one zone is the first night of March in UTC. -/
theorem leap_day_evening_is_march_night :
    ∃ t t', ofText "2024-02-29T23:30:00.5-01:00" = .ok t ∧
      ofText " 2024-03-01 00:30:00.500" = .ok t' ∧ t.compare t' = .eq := by
  have hevening : Clock.Civil ⟨⟨2024, 2, 29⟩, 23, 30, 0, 500000000⟩ := by decide
  have hnight : Clock.Civil ⟨⟨2024, 3, 1⟩, 0, 30, 0, 500000000⟩ := by decide
  have hhalf : IsFraction ['.', '5'] 500000000 :=
    .digits (k := 1) (n := 5) (by decide) (by decide) ⟨rfl, List.all_eq_true.mp rfl, rfl⟩
  have hhalf' : IsFraction ['.', '5', '0', '0'] 500000000 :=
    .digits (k := 3) (n := 500) (by decide) (by decide) ⟨rfl, List.all_eq_true.mp rfl, rfl⟩
  have hzone : IsZone ['-', '0', '1', ':', '0', '0'] (-60) :=
    .behind (h := 1) (m := 0) (by decide) (by decide)
  have hspelled : Denotes "2024-02-29T23:30:00.5-01:00"
      ⟨⟨2024, 2, 29⟩, 23, 30, 0, 500000000⟩ (-60) :=
    ⟨[], _, [], by decide, .zoned hhalf hzone, List.forall_mem_nil _, List.forall_mem_nil _⟩
  have hspelled' : Denotes " 2024-03-01 00:30:00.500"
      ⟨⟨2024, 3, 1⟩, 0, 30, 0, 500000000⟩ 0 :=
    ⟨[' '], _, [], by decide, .inUtc (.inr rfl) hhalf', List.forall_mem_singleton.mpr rfl,
      List.forall_mem_nil _⟩
  have hsame : Clock.instant ⟨⟨2024, 2, 29⟩, 23, 30, 0, 500000000⟩ (-60) =
      Clock.instant ⟨⟨2024, 3, 1⟩, 0, 30, 0, 500000000⟩ 0 := by
    rw [← hevening.nanos_ofClock, ← hnight.nanos_ofClock]
    decide
  obtain ⟨t, ht, -⟩ := spellings_read_as_instants.1 _ _ _ hevening hspelled
  obtain ⟨t', ht', -⟩ := spellings_read_as_instants.1 _ _ _ hnight hspelled'
  exact ⟨t, t', ht, ht',
    (spellings_read_as_instants.2 _ _ _ _ _ _ t t' hevening hnight hspelled hspelled' ht ht').2.mpr
      hsame⟩

end AccountRegistry.Timestamp
