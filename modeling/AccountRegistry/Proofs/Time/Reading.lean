import AccountRegistry.Account
import AccountRegistry.Proofs.Time.Clock
import Mathlib.Data.List.TakeWhile

/-! # What is read can be written, with two exceptions

The beginning of a text decides whether the year of its timestamp is written, and the end of it
whether the offset is. Nothing between them matters.
-/

namespace AccountRegistry.Timestamp

open Time

variable {cs r : List Char}

/-! ## Beginnings and endings -/

/-- The beginning of a text that gives a year before year 0. -/
def IsNegative (start : List Char) : Prop :=
  ∃ year, start = '-' :: year ∧ year.length = 4 ∧ year ≠ ['0', '0', '0', '0']

/-- The end of a text that gives an offset of 24 or 25 hours. -/
def IsFar (ending : List Char) : Prop :=
  ∃ sign hour m m', ending = [sign, '2', hour, ':', m, m'] ∧ (sign = '+' ∨ sign = '-') ∧
    (hour = '4' ∨ hour = '5') ∧ m.isDigit = true ∧ m'.isDigit = true

def NegativeYear (cs : List Char) : Prop := ∃ start, IsNegative start ∧ start <+: cs

def FarOffset (cs : List Char) : Prop := ∃ ending, IsFar ending ∧ ending <:+ cs

theorem IsFar.not_mem {ending : List Char} (h : IsFar ending) {c : Char}
    (hc : c ≠ ':' ∧ c ≠ '+' ∧ c ≠ '-' ∧ c.isDigit = false) : c ∉ ending := by
  obtain ⟨sign, hour, m, m', rfl, hsign, hhour, hm, hm'⟩ := h
  intro hmem
  simp only [List.mem_cons, List.not_mem_nil, or_false] at hmem
  rcases hmem with rfl | rfl | rfl | rfl | rfl | rfl
  · exact hsign.elim hc.2.1 hc.2.2.1
  · exact absurd hc.2.2.2 (by decide)
  · rcases hhour with rfl | rfl <;> exact absurd hc.2.2.2 (by decide)
  · exact hc.1 rfl
  · rw [hm] at hc
    exact absurd hc.2.2.2 (by decide)
  · rw [hm'] at hc
    exact absurd hc.2.2.2 (by decide)

/-- An offset stands behind whatever is not part of one. -/
theorem farOffset_append_cons_iff {before after : List Char} {c : Char}
    (hc : c ≠ ':' ∧ c ≠ '+' ∧ c ≠ '-' ∧ c.isDigit = false) :
    FarOffset (before ++ c :: after) ↔ FarOffset after := by
  constructor
  · rintro ⟨ending, hfar, hsuffix⟩
    have hmem := hfar.not_mem hc
    refine ⟨ending, hfar, ?_⟩
    rcases List.suffix_or_suffix_of_suffix hsuffix (List.suffix_append before (c :: after))
      with h | h
    · rcases List.suffix_cons_iff.mp h with rfl | h
      · exact absurd List.mem_cons_self hmem
      · exact h
    · exact absurd (h.subset List.mem_cons_self) hmem
  · rintro ⟨ending, hfar, hsuffix⟩
    exact ⟨ending, hfar, hsuffix.trans ((List.suffix_cons c after).trans (List.suffix_append _ _))⟩

theorem not_farOffset_of_no_colon (h : ':' ∉ cs) : ¬ FarOffset cs := by
  rintro ⟨_, ⟨sign, hour, m, m', rfl, -⟩, hsuffix⟩
  exact h (hsuffix.subset (by simp))

/-! ## Digits -/

theorem digits_zero_eq_some_iff {k : Nat} : digits 0 cs = some (k, r) ↔ cs = r ∧ k = 0 := by
  rw [digits, Option.some.injEq, Prod.mk.injEq, eq_comm (a := 0), and_comm]

theorem digits_succ_eq_some_iff {n k : Nat} : digits (n + 1) cs = some (k, r) ↔
    ∃ c rest k', cs = c :: rest ∧ c.isDigit = true ∧ digits n rest = some (k', r) ∧
      k = (c.toNat - 48) * Nat.pow 10 n + k' := by
  cases cs with
  | nil => exact ⟨nofun, nofun⟩
  | cons c rest =>
    rw [digits]
    simp only [Option.ite_none_right_eq_some, Option.map_eq_some_iff, Prod.exists, Prod.mk.injEq,
      List.cons.injEq]
    constructor
    · rintro ⟨hc, k', r', hrest, rfl, rfl⟩
      exact ⟨c, rest, k', ⟨rfl, rfl⟩, hc, hrest, rfl⟩
    · rintro ⟨_, _, k', ⟨rfl, rfl⟩, hc, hrest, rfl⟩
      exact ⟨hc, k', r, hrest, rfl, rfl⟩

theorem toNat_of_isDigit {c : Char} (h : c.isDigit = true) : 48 ≤ c.toNat ∧ c.toNat ≤ 57 := by
  simp only [Char.isDigit, Bool.and_eq_true, decide_eq_true_eq, ge_iff_le, UInt32.le_iff_toNat_le]
    at h
  exact h

theorem eq_iff_toNat_sub {c d : Char} (hc : c.isDigit = true) (hd : d.isDigit = true) :
    c = d ↔ c.toNat - 48 = d.toNat - 48 := by
  have hc := toNat_of_isDigit hc
  have hd := toNat_of_isDigit hd
  rw [← Char.toNat_inj]
  omega

theorem pair_eq_some {low high n : Nat} (h : pair low high cs = some (n, r)) :
    ∃ a b, cs = a :: b :: r ∧ a.isDigit = true ∧ b.isDigit = true ∧
      n = (a.toNat - 48) * 10 + (b.toNat - 48) ∧ low ≤ n ∧ n ≤ high := by
  unfold pair at h
  split at h
  · next k r' hdigits =>
    split at h
    · next hrange =>
      cases h
      simp only [digits_succ_eq_some_iff, digits_zero_eq_some_iff] at hdigits
      obtain ⟨a, _, _, rfl, ha, ⟨b, _, _, rfl, hb, ⟨rfl, rfl⟩, rfl⟩, rfl⟩ := hdigits
      exact ⟨a, b, rfl, ha, hb, by simp, hrange⟩
    · cases h
  · cases h

theorem pair_digits {low high n : Nat} (h : pair low high cs = some (n, r)) :
    ∃ ds, cs = ds ++ r ∧ (∀ c ∈ ds, c.isDigit = true) ∧ n ≤ high := by
  obtain ⟨a, b, rfl, ha, hb, -, -, hle⟩ := pair_eq_some h
  exact ⟨[a, b], rfl, by simp [ha, hb], hle⟩

theorem not_mem_digits {ds : List Char} (h : ∀ c ∈ ds, c.isDigit = true) {d : Char}
    (hd : d.isDigit = false) : d ∉ ds := by
  intro hmem
  rw [h d hmem] at hd
  cases hd

theorem literal_eq_some {c : Char} (h : literal c cs = some ((), r)) : cs = c :: r := by
  unfold literal at h
  split at h
  · next d rest =>
    split at h
    · next hd =>
      cases h
      rw [hd]
    · cases h
  · cases h

theorem sign_eq_some {negative : Bool} (h : sign cs = some (negative, r)) :
    ∃ c, cs = c :: r ∧ (c = '+' ∧ negative = false ∨ c = '-' ∧ negative = true) := by
  unfold sign at h
  split at h
  · cases h
    exact ⟨_, rfl, .inl ⟨rfl, rfl⟩⟩
  · cases h
    exact ⟨_, rfl, .inr ⟨rfl, rfl⟩⟩
  · cases h

theorem digits_four_eq_some {k : Nat} (h : digits 4 cs = some (k, r)) :
    ∃ ds, cs = ds ++ r ∧ ds.length = 4 ∧ (∀ c ∈ ds, c.isDigit = true) ∧ k ≤ 9999 ∧
      (k = 0 ↔ ds = ['0', '0', '0', '0']) := by
  simp only [digits_succ_eq_some_iff, digits_zero_eq_some_iff] at h
  obtain ⟨a, _, _, rfl, ha, ⟨b, _, _, rfl, hb, ⟨c, _, _, rfl, hc, ⟨d, _, _, rfl, hd, ⟨rfl, rfl⟩,
    rfl⟩, rfl⟩, rfl⟩, rfl⟩ := h
  refine ⟨[a, b, c, d], rfl, rfl, by simp [ha, hb, hc, hd], ?_, ?_⟩
  · have := toNat_of_isDigit ha
    have := toNat_of_isDigit hb
    have := toNat_of_isDigit hc
    have := toNat_of_isDigit hd
    simp
    omega
  · have hzero : '0'.isDigit = true := rfl
    simp [eq_iff_toNat_sub ha hzero, eq_iff_toNat_sub hb hzero, eq_iff_toNat_sub hc hzero,
      eq_iff_toNat_sub hd hzero]

/-! ## Dates -/

/-- A text that begins with a year and has no time. -/
structure SpellsYear (text : List Char) (y : Int) : Prop where
  no_colon : ':' ∉ text
  natAbs_le : y.natAbs ≤ 9999
  negative : ∀ rest, NegativeYear (text ++ rest) ↔ y < 0

/-- The rest of a date behind its year. -/
theorem SpellsYear.date {text month day : List Char} {y : Int} (h : SpellsYear text y)
    (hmonth : ∀ c ∈ month, c.isDigit = true) (hday : ∀ c ∈ day, c.isDigit = true) :
    SpellsYear (text ++ '-' :: (month ++ '-' :: day)) y where
  no_colon := by simp [h.no_colon, not_mem_digits hmonth, not_mem_digits hday]
  natAbs_le := h.natAbs_le
  negative rest := by
    rw [List.append_assoc]
    exact h.negative _

theorem not_negativeYear_cons {c : Char} (hc : c ≠ '-') : ¬ NegativeYear (c :: cs) := by
  rintro ⟨_, ⟨year, rfl, -⟩, hprefix⟩
  exact hc (List.cons_prefix_cons.mp hprefix).1.symm

theorem negativeYear_minus_iff {year : List Char} (h : year.length = 4) :
    NegativeYear ('-' :: (year ++ r)) ↔ year ≠ ['0', '0', '0', '0'] := by
  constructor
  · rintro ⟨_, ⟨year', rfl, hlength, hne⟩, hprefix⟩
    have hprefix := (List.cons_prefix_cons.mp hprefix).2
    rwa [← (List.prefix_of_prefix_length_le hprefix (List.prefix_append year r)
      (by rw [h, hlength])).eq_of_length (by rw [h, hlength])]
  · intro hne
    exact ⟨_, ⟨year, rfl, h, hne⟩, List.prefix_append ('-' :: year) r⟩

theorem spellsYear_digits {k : Nat} (h : digits 4 cs = some (k, r)) :
    ∃ text, cs = text ++ r ∧ SpellsYear text k := by
  obtain ⟨ds, rfl, hlength, hdigits, hle, -⟩ := digits_four_eq_some h
  refine ⟨ds, rfl, not_mem_digits hdigits rfl, by omega, fun rest => ?_⟩
  obtain ⟨c, ds, rfl⟩ := List.exists_cons_of_ne_nil (List.ne_nil_of_length_eq_add_one hlength)
  refine iff_of_false (not_negativeYear_cons ?_) (by omega)
  rintro rfl
  exact not_mem_digits hdigits rfl List.mem_cons_self

theorem spellsYear_of_year {y : Int} (h : year cs = some (y, r)) :
    ∃ text, cs = text ++ r ∧ SpellsYear text y := by
  unfold year at h
  split at h
  · next negative rest hsign =>
    simp only [Option.map_eq_some_iff, Prod.exists, Prod.mk.injEq] at h
    obtain ⟨k, _, hdigits, rfl, rfl⟩ := h
    obtain ⟨ds, rfl, hlength, hds, hle, hzero⟩ := digits_four_eq_some hdigits
    obtain ⟨c, rfl, hc⟩ := sign_eq_some hsign
    refine ⟨c :: ds, rfl, ?_, ?_, fun rest => ?_⟩
    · rw [List.mem_cons, not_or]
      refine ⟨?_, not_mem_digits hds rfl⟩
      rcases hc with ⟨rfl, -⟩ | ⟨rfl, -⟩ <;> decide
    · unfold signedBy
      split <;> omega
    · rcases hc with ⟨rfl, rfl⟩ | ⟨rfl, rfl⟩
      · refine iff_of_false (not_negativeYear_cons (by decide)) ?_
        unfold signedBy
        simp
      · rw [List.cons_append, negativeYear_minus_iff hlength, ne_eq, ← hzero]
        unfold signedBy
        simp
  · simp only [Option.map_eq_some_iff, Prod.exists, Prod.mk.injEq] at h
    obtain ⟨k, _, hdigits, rfl, rfl⟩ := h
    exact spellsYear_digits hdigits

theorem expect_eq_ok_iff {α : Type} {e : DateError} {part : Part α} {x : α × List Char} :
    expect e part cs = .ok x ↔ part cs = some x := by
  unfold expect
  cases part cs with
  | none => exact ⟨nofun, nofun⟩
  | some y => rw [Except.ok.injEq, Option.some.injEq]

theorem spellsYear_of_dateParts {d : Date} (h : dateParts cs = .ok (d, r)) :
    ∃ text, cs = text ++ r ∧ SpellsYear text d.year := by
  unfold dateParts at h
  obtain ⟨⟨y, _⟩, hyear, h⟩ := bind_eq_ok_iff.mp h
  obtain ⟨⟨_, _⟩, hdash, h⟩ := bind_eq_ok_iff.mp h
  obtain ⟨⟨m, _⟩, hmonth, h⟩ := bind_eq_ok_iff.mp h
  obtain ⟨⟨_, _⟩, hdash', h⟩ := bind_eq_ok_iff.mp h
  obtain ⟨⟨day, _⟩, hday, h⟩ := bind_eq_ok_iff.mp h
  cases h
  obtain ⟨text, rfl, hspells⟩ := spellsYear_of_year (expect_eq_ok_iff.mp hyear)
  obtain rfl := literal_eq_some (expect_eq_ok_iff.mp hdash)
  obtain ⟨month, rfl, hmonthDigits, -⟩ := pair_digits (expect_eq_ok_iff.mp hmonth)
  obtain rfl := literal_eq_some (expect_eq_ok_iff.mp hdash')
  obtain ⟨day, rfl, hdayDigits, -⟩ := pair_digits (expect_eq_ok_iff.mp hday)
  exact ⟨text ++ '-' :: (month ++ '-' :: day), by simp, hspells.date hmonthDigits hdayDigits⟩

/-! ## Times of day -/

/-- A text without the signs of an offset. -/
def Signless (text : List Char) : Prop := '+' ∉ text ∧ '-' ∉ text

instance (text : List Char) : Decidable (Signless text) := inferInstanceAs (Decidable (_ ∧ _))

theorem Signless.append {text more : List Char} (h : Signless text) (h' : Signless more) :
    Signless (text ++ more) := by
  simp [Signless, h.1, h.2, h'.1, h'.2]

theorem signless_digits {ds : List Char} (h : ∀ c ∈ ds, c.isDigit = true) : Signless ds :=
  ⟨not_mem_digits h rfl, not_mem_digits h rfl⟩

theorem Signless.not_farOffset {text : List Char} (h : Signless text) : ¬ FarOffset text := by
  rintro ⟨_, ⟨sign, hour, m, m', rfl, hsign, -⟩, hsuffix⟩
  have hmem := hsuffix.subset List.mem_cons_self
  rcases hsign with rfl | rfl
  · exact h.1 hmem
  · exact h.2 hmem

theorem hourMinute_eq_some {h m : Nat} (hread : hourMinute cs = some ((h, m), r)) :
    ∃ text, cs = text ++ r ∧ Signless text ∧ h < 24 ∧ m < 60 := by
  simp only [hourMinute, Option.bind_eq_bind, Option.bind_eq_some_iff, Prod.exists, Option.pure_def,
    Option.some.injEq, Prod.mk.injEq] at hread
  obtain ⟨_, _, hhour, _, _, hcolon, _, _, hminute, ⟨rfl, rfl⟩, rfl⟩ := hread
  obtain ⟨hour, rfl, hdigits, hle⟩ := pair_digits hhour
  obtain rfl := literal_eq_some hcolon
  obtain ⟨minute, rfl, hdigits', hle'⟩ := pair_digits hminute
  refine ⟨hour ++ ([':'] ++ minute), by simp, ?_, by omega, by omega⟩
  exact (signless_digits hdigits).append (.append (by decide) (signless_digits hdigits'))

theorem timeOfDay_eq_some {h m s : Nat} (hread : timeOfDay cs = some ((h, m, s), r)) :
    ∃ text, cs = text ++ r ∧ Signless text ∧ h < 24 ∧ m < 60 ∧ s ≤ 60 := by
  simp only [timeOfDay, Option.bind_eq_bind, Option.bind_eq_some_iff, Prod.exists, Option.pure_def,
    Option.some.injEq, Prod.mk.injEq] at hread
  obtain ⟨_, _, _, hminutes, _, _, hcolon, _, _, hsecond, ⟨rfl, rfl, rfl⟩, rfl⟩ := hread
  obtain ⟨minutes, rfl, hsign, hh, hm⟩ := hourMinute_eq_some hminutes
  obtain rfl := literal_eq_some hcolon
  obtain ⟨second, rfl, hdigits, hle⟩ := pair_digits hsecond
  refine ⟨minutes ++ ([':'] ++ second), by simp, ?_, hh, hm, hle⟩
  exact hsign.append (.append (by decide) (signless_digits hdigits))

theorem foldl_digits_lt {ds : List Char} (h : ∀ c ∈ ds, c.isDigit = true) (n : Nat) :
    ds.foldl (fun n c => n * 10 + (c.toNat - 48)) n < (n + 1) * 10 ^ ds.length := by
  induction ds generalizing n with
  | nil => simp
  | cons c ds ih =>
    have hc := toNat_of_isDigit (h c List.mem_cons_self)
    have hrest := ih (fun d hd => h d (List.mem_cons_of_mem c hd)) (n * 10 + (c.toNat - 48))
    refine hrest.trans_le ?_
    rw [List.length_cons, Nat.pow_succ', ← Nat.mul_assoc]
    exact Nat.mul_le_mul_right _ (by omega)

theorem fraction_eq_some {n : Nat} (h : fraction cs = some (n, r)) :
    ∃ text, cs = text ++ r ∧ Signless text ∧ n < 1000000000 := by
  have hdigits : ∀ c ∈ cs.takeWhile Char.isDigit, c.isDigit = true :=
    fun c hc => List.mem_takeWhile_imp hc
  unfold fraction at h
  dsimp only at h
  split at h
  · cases h
  · cases h
    refine ⟨_, List.takeWhile_append_dropWhile.symm, signless_digits hdigits, ?_⟩
    generalize cs.takeWhile Char.isDigit = ds at hdigits
    have hkept : ∀ c ∈ ds.take 9 ++ List.replicate (9 - ds.length) '0', c.isDigit = true := by
      intro c hc
      rcases List.mem_append.mp hc with hc | hc
      · exact hdigits c (List.mem_of_mem_take hc)
      · rw [(List.mem_replicate.mp hc).2]
        rfl
    have hlength : (ds.take 9 ++ List.replicate (9 - ds.length) '0').length = 9 := by
      rw [List.length_append, List.length_take, List.length_replicate]
      omega
    simpa [hlength] using foldl_digits_lt hkept 0

theorem optionalFraction_eq_some {n : Nat} (h : optionalFraction cs = some (n, r)) :
    ∃ text, cs = text ++ r ∧ Signless text ∧ n < 1000000000 := by
  unfold optionalFraction at h
  split at h
  · next rest =>
    obtain ⟨text, rfl, hsign, hlt⟩ := fraction_eq_some h
    have hpoint : Signless ['.'] := by decide
    exact ⟨['.'] ++ text, rfl, hpoint.append hsign, hlt⟩
  · cases h
    exact ⟨[], rfl, by decide, by decide⟩

/-! ## Offsets -/

theorem farOffset_append_iff {before : List Char} {sign a b m m' : Char}
    (hsign : sign = '+' ∨ sign = '-') (hm : m.isDigit = true) (hm' : m'.isDigit = true) :
    FarOffset (before ++ [sign, a, b, ':', m, m']) ↔ a = '2' ∧ (b = '4' ∨ b = '5') := by
  constructor
  · rintro ⟨_, ⟨sign', hour, n, n', rfl, -, hhour, -⟩, hsuffix⟩
    have heq := (List.suffix_of_suffix_length_le hsuffix (List.suffix_append before _)
      le_rfl).eq_of_length rfl
    simp only [List.cons.injEq] at heq
    obtain ⟨-, rfl, rfl, -⟩ := heq
    exact ⟨rfl, hhour⟩
  · rintro ⟨rfl, hb⟩
    exact ⟨_, ⟨sign, b, m, m', rfl, hsign, hb, hm, hm'⟩, List.suffix_append before _⟩

/-- The most minutes that an offset can have: 25 hours and 59 minutes. -/
def maxOffset : Nat := 1559

/-- An offset has its bound, and reaches a day exactly if its text says so. -/
theorem signedOffset_far_iff {most : Nat} (hmost : most ≤ 25) {offset : Int}
    (h : signedOffset most cs = some (offset, [])) (before : List Char) :
    offset.natAbs ≤ maxOffset ∧ (23 < offset.natAbs / 60 ↔ FarOffset (before ++ cs)) := by
  simp only [signedOffset, Option.bind_eq_bind, Option.bind_eq_some_iff, Prod.exists,
    Option.pure_def, Option.some.injEq, Prod.mk.injEq] at h
  obtain ⟨negative, _, hread, _, _, hhour, _, _, hcolon, _, _, hminute, rfl, rfl⟩ := h
  obtain ⟨sign, rfl, hsign⟩ := sign_eq_some hread
  obtain ⟨a, b, rfl, ha, hb, rfl, -, hle⟩ := pair_eq_some hhour
  obtain rfl := literal_eq_some hcolon
  obtain ⟨m, m', rfl, hm, hm', rfl, -, hle'⟩ := pair_eq_some hminute
  rw [farOffset_append_iff (hsign.imp And.left And.left) hm hm',
    eq_iff_toNat_sub ha (d := '2') rfl, eq_iff_toNat_sub hb (d := '4') rfl,
    eq_iff_toNat_sub hb (d := '5') rfl]
  have hb' := toNat_of_isDigit hb
  simp only [Char.reduceToNat]
  unfold signedBy maxOffset
  split <;> omega

theorem zone_far_iff {offset : Int} (h : zone cs = some (offset, [])) (before : List Char) :
    offset.natAbs ≤ maxOffset ∧ (23 < offset.natAbs / 60 ↔ FarOffset (before ++ cs)) := by
  unfold zone at h
  split at h
  case h_1 | h_2 =>
    cases h
    rw [farOffset_append_cons_iff (by decide)]
    exact ⟨by decide, iff_of_false (by decide) (Signless.not_farOffset (by decide))⟩
  case h_3 => exact signedOffset_far_iff (by decide) h before

/-! ## Whole texts -/

/-- A timestamp whose year and offset show in the beginning and the end of a text. -/
def ShownIn (cs : List Char) (t : Timestamp) : Prop :=
  ∃ c offset, t = ofClock c offset ∧ c.Real ∧ c.date.year.natAbs ≤ 9999 ∧
    (c.date.year < 0 ↔ NegativeYear cs) ∧
    offset.natAbs ≤ maxOffset ∧ (23 < offset.natAbs / 60 ↔ FarOffset cs)

theorem ShownIn.writable_iff {t : Timestamp} (h : ShownIn cs t) :
    t.Writable ↔ ¬ NegativeYear cs ∧ ¬ FarOffset cs := by
  obtain ⟨c, offset, rfl, hreal, hle, hyear, -, hoffset⟩ := h
  rw [Writable, clock_ofClock hreal, ofClock_offset, ← hyear, ← hoffset]
  omega

theorem withLeapSecond_eq_some {c : Clock} {offset : Int} {t : Timestamp} (hdate : c.date.Real)
    (hh : c.hour < 24) (hm : c.minute < 60) (hs : c.second ≤ 60) (hn : c.nano < 1000000000)
    (h : withLeapSecond c offset = some t) :
    ∃ c' : Clock, t = ofClock c' offset ∧ c'.Real ∧ c'.date = c.date := by
  unfold withLeapSecond at h
  split at h
  · dsimp only at h
    split at h
    · cases h
      exact ⟨_, rfl, ⟨hdate, hh, hm, by norm_num, by norm_num⟩, rfl⟩
    · cases h
  · cases h
    exact ⟨c, rfl, ⟨hdate, hh, hm, by omega, hn⟩, rfl⟩

/-- Any one character may stand between date and time. -/
theorem full_eq_some {t : Timestamp} (h : full cs = some t) :
    ∃ (c : Clock) (offset : Int) (date rest : List Char) (separator : Char),
      cs = date ++ separator :: rest ∧ SpellsYear date c.date.year ∧ c.date.Real ∧
      (∃ before after, rest = before ++ after ∧ zone after = some (offset, [])) ∧
      (c.hour < 24 ∧ c.minute < 60 ∧ c.second ≤ 60 ∧ c.nano < 1000000000) ∧
      withLeapSecond c offset = some t := by
  simp only [full, Option.bind_eq_bind, Option.bind_eq_some_iff, Prod.exists] at h
  obtain ⟨y, _, hyear, _, _, hdash, m, _, hmonth, _, _, hdash', d, r, hday, h⟩ := h
  obtain ⟨text, rfl, hspells⟩ := spellsYear_digits hyear
  obtain rfl := literal_eq_some hdash
  obtain ⟨month, rfl, hmonthDigits, -⟩ := pair_digits hmonth
  obtain rfl := literal_eq_some hdash'
  obtain ⟨day, rfl, hdayDigits, -⟩ := pair_digits hday
  split at h
  · next separator rest =>
    split at h
    · simp only [Option.bind_some, Option.bind_eq_some_iff, Prod.exists] at h
      obtain ⟨h', min, s, _, htime, nano, _, hnano, offset, rest', hzone, h⟩ := h
      obtain ⟨text', rfl, -, hh, hm, hs⟩ := timeOfDay_eq_some htime
      obtain ⟨text'', rfl, -, hn⟩ := optionalFraction_eq_some hnano
      split at h
      · cases h
      · next hend =>
        simp only [Bool.or_eq_true, Bool.not_eq_true', List.isEmpty_eq_false_iff,
          decide_eq_false_iff_not, not_or, not_not] at hend
        obtain ⟨rfl, hdate⟩ := hend
        exact ⟨_, offset, text ++ '-' :: (month ++ '-' :: day), _, separator, by simp,
          hspells.date hmonthDigits hdayDigits, hdate,
          ⟨text' ++ text'', _, (List.append_assoc ..).symm, hzone⟩, ⟨hh, hm, hs, hn⟩, h⟩
    · cases h
  · cases h

theorem full_shownIn {t : Timestamp} (h : full cs = some t) : ShownIn cs t := by
  obtain ⟨c, offset, date, _, separator, rfl, hspells, hdate, ⟨before, after, rfl, hzone⟩,
    ⟨hh, hm, hs, hn⟩, h⟩ := full_eq_some h
  obtain ⟨c', rfl, hreal, hdate'⟩ := withLeapSecond_eq_some hdate hh hm hs hn h
  rw [← hdate'] at hspells
  refine ⟨c', offset, rfl, hreal, hspells.natAbs_le, (hspells.negative _).symm, ?_⟩
  have hfar := zone_far_iff hzone (date ++ separator :: before)
  rwa [List.append_assoc, List.cons_append] at hfar

theorem dated_eq_some {α : Type} {time : Part α} {d : Date} {x : α}
    (h : dated time cs = some (d, x)) :
    ∃ date rest, cs = date ++ 'T' :: rest ∧ SpellsYear date d.year ∧ d.Real ∧
      time rest = some (x, []) := by
  simp only [dated, Option.bind_eq_bind, Option.bind_eq_some_iff, Prod.exists] at h
  obtain ⟨_, _, hdate, _, _, hT, _, rest, htime, h⟩ := h
  split at h
  · next hend =>
    cases h
    simp only [Bool.and_eq_true, List.isEmpty_iff, decide_eq_true_eq] at hend
    obtain ⟨rfl, hreal⟩ := hend
    rw [toOption_eq_some_iff] at hdate
    obtain ⟨date, rfl, hspells⟩ := spellsYear_of_dateParts hdate
    obtain rfl := literal_eq_some hT
    exact ⟨date, _, rfl, hspells, hreal, htime⟩
  · cases h

theorem localTime_shownIn {t : Timestamp} (h : localTime cs = some t) : ShownIn cs t := by
  have hlocal {date rest : List Char} {c : Clock} (hspells : SpellsYear date c.date.year)
      (hreal : c.Real) (hsign : Signless rest) : ShownIn (date ++ 'T' :: rest) (ofClock c 0) := by
    refine ⟨c, 0, rfl, hreal, hspells.natAbs_le, (hspells.negative _).symm, ?_⟩
    rw [farOffset_append_cons_iff (by decide)]
    exact ⟨by decide, iff_of_false (by decide) hsign.not_farOffset⟩
  simp only [localTime, Option.bind_eq_bind, Option.orElse_eq_orElse, Option.orElse_eq_or,
    Option.or_eq_some_iff, Option.bind_eq_some_iff, Prod.exists] at h
  rcases h with ⟨d, h', m, s, n, hdated, h⟩ | ⟨-, d, h', m, hdated, h⟩
  · obtain ⟨date, rest, rfl, hspells, hreal, htime⟩ := dated_eq_some hdated
    simp only [Option.bind_eq_some_iff, Prod.exists, Option.pure_def, Option.some.injEq,
      Prod.mk.injEq] at htime
    obtain ⟨_, _, _, _, htime, _, _, hnano, ⟨⟨rfl, rfl, rfl⟩, rfl⟩, rfl⟩ := htime
    obtain ⟨text, rfl, hsign, hh, hm, hs⟩ := timeOfDay_eq_some htime
    obtain ⟨text', rfl, hsign', hn⟩ := optionalFraction_eq_some hnano
    split at h
    · cases h
    · next hsecond =>
      cases h
      rw [List.append_nil]
      exact hlocal hspells ⟨hreal, hh, hm, lt_of_le_of_ne hs hsecond, hn⟩ (hsign.append hsign')
  · obtain ⟨date, rest, rfl, hspells, hreal, htime⟩ := dated_eq_some hdated
    obtain ⟨text, rfl, hsign, hh, hm⟩ := hourMinute_eq_some htime
    cases h
    rw [List.append_nil]
    exact hlocal hspells ⟨hreal, hh, hm, by norm_num, by norm_num⟩ hsign

theorem offsetTime_shownIn {t : Timestamp} (h : offsetTime cs = some t) : ShownIn cs t := by
  simp only [offsetTime, Option.bind_eq_bind, Option.bind_eq_some_iff, Prod.exists] at h
  obtain ⟨d, h', m, s, offset, hdated, h⟩ := h
  obtain ⟨date, rest, rfl, hspells, hreal, htime⟩ := dated_eq_some hdated
  simp only [Option.bind_eq_some_iff, Prod.exists, Option.pure_def, Option.some.injEq,
    Prod.mk.injEq] at htime
  obtain ⟨_, _, _, _, htime, _, _, hoffset, ⟨⟨rfl, rfl, rfl⟩, rfl⟩, rfl⟩ := htime
  obtain ⟨text, rfl, -, hh, hm, hs⟩ := timeOfDay_eq_some htime
  split at h
  · cases h
  · next hsecond =>
    cases h
    refine ⟨_, _, rfl, ⟨hreal, hh, hm, lt_of_le_of_ne hs hsecond, by norm_num⟩, hspells.natAbs_le,
      (hspells.negative _).symm, ?_⟩
    have hfar := signedOffset_far_iff (by decide) hoffset (date ++ 'T' :: text)
    rwa [List.append_assoc, List.cons_append] at hfar

theorem bareDate_shownIn {d : Date} (h : bareDate cs = .ok d) :
    ShownIn cs (ofClock ⟨d, 0, 0, 0, 0⟩ 0) := by
  unfold bareDate at h
  obtain ⟨⟨d', rest⟩, hparts, hend⟩ := bind_eq_ok_iff.mp h
  obtain ⟨text, rfl, hspells⟩ := spellsYear_of_dateParts hparts
  dsimp only at hend
  split at hend
  · cases hend
  · next hrest =>
    split at hend
    · next hreal =>
      cases hend
      refine ⟨_, 0, rfl, ⟨hreal, by norm_num, by norm_num, by norm_num, by norm_num⟩,
        hspells.natAbs_le, (hspells.negative _).symm, by decide,
        iff_of_false (by decide) (not_farOffset_of_no_colon ?_)⟩
      rw [Bool.not_eq_true, Bool.not_eq_false', List.isEmpty_iff] at hrest
      rw [hrest, List.append_nil]
      exact hspells.no_colon
    · cases hend

/-! ## The letter between date and time -/

theorem blankToT_cases (cs : List Char) : blankToT cs = cs ∨ ∃ date time, date.length = 10 ∧
    cs = date ++ ' ' :: time ∧ blankToT cs = date ++ 'T' :: time := by
  unfold blankToT
  split
  · next rest hrest =>
    have hlength : 10 ≤ cs.length := by
      by_contra hlt
      rw [List.drop_eq_nil_of_le (by omega)] at hrest
      cases hrest
    refine .inr ⟨cs.take 10, rest, by rw [List.length_take]; omega, ?_, rfl⟩
    rw [← hrest, List.take_append_drop]
  · exact .inl rfl

theorem negativeYear_append_congr {start x y : List Char} (h : 5 ≤ start.length)
    (hx : NegativeYear (start ++ x)) : NegativeYear (start ++ y) := by
  obtain ⟨_, ⟨year, rfl, hlength, hne⟩, hprefix⟩ := hx
  have hstart := List.prefix_of_prefix_length_le hprefix (List.prefix_append start x)
    (by rw [List.length_cons]; omega)
  exact ⟨_, ⟨year, rfl, hlength, hne⟩, hstart.trans (List.prefix_append start y)⟩

theorem shownIn_of_blankToT {t : Timestamp} (h : ShownIn (blankToT cs) t) : ShownIn cs t := by
  rcases blankToT_cases cs with hsame | ⟨date, time, hlength, hcs, hT⟩
  · rwa [hsame] at h
  · rw [hT] at h
    obtain ⟨c, offset, rfl, hreal, hle, hyear, hbound, hoffset⟩ := h
    refine ⟨c, offset, rfl, hreal, hle, hyear.trans ?_, hbound, hoffset.trans ?_⟩
    · rw [hcs]
      exact ⟨negativeYear_append_congr (by omega), negativeYear_append_congr (by omega)⟩
    · rw [hcs, farOffset_append_cons_iff (by decide), farOffset_append_cons_iff (by decide)]

theorem shownIn_of_readTrimmed {t : Timestamp} (h : readTrimmed cs = .ok t) : ShownIn cs t := by
  unfold readTrimmed at h
  split at h
  · next t' hread =>
    cases h
    simp only [Option.orElse_eq_orElse, Option.orElse_eq_or, Option.or_eq_some_iff] at hread
    rcases hread with hfull | ⟨-, hlocal | ⟨-, hoffset⟩⟩
    · exact full_shownIn hfull
    · exact shownIn_of_blankToT (localTime_shownIn hlocal)
    · exact shownIn_of_blankToT (offsetTime_shownIn hoffset)
  · obtain ⟨d, hd, rfl⟩ := map_eq_ok_iff.mp h
    exact bareDate_shownIn hd

/-- A text that neither begins with a year before year 0 nor ends with an offset of 24 or 25 hours.
-/
def IsPlainText (s : String) : Prop :=
  ¬ NegativeYear (Text.trim s.toList) ∧ ¬ FarOffset (Text.trim s.toList)

/-- A timestamp that is read can be written exactly if its text is plain. -/
theorem writable_iff_of_read {s : String} {t : Timestamp} (h : read s = .ok t) :
    t.Writable ↔ IsPlainText s :=
  (shownIn_of_readTrimmed h).writable_iff

theorem ofText_eq_ok_iff {s : String} {t : Timestamp} : ofText s = .ok t ↔ read s = .ok t := by
  unfold ofText
  cases read s with
  | ok t' => rw [Except.ok.injEq, Except.ok.injEq]
  | error e => exact ⟨nofun, nofun⟩

end AccountRegistry.Timestamp
