import AccountRegistry.Proofs.Text.Numeral
import AccountRegistry.Proofs.Time.Reading

/-! # Runs of digits

A number in so many digits is read back from them, whatever stands behind. In a fraction of a second
the digits are those of a number of nanoseconds without its last zeros.
-/

namespace AccountRegistry.Timestamp

variable {k n : Nat} {ds rest : List Char}

/-- Exactly so many digits, and the number that they stand for. -/
structure IsDigits (k : Nat) (ds : List Char) (n : Nat) : Prop where
  length : ds.length = k
  digits : ∀ c ∈ ds, c.isDigit = true
  value : Nat.ofDigitChars 10 ds 0 = n

theorem isDigits_padded (hk : 0 < k) (h : n < 10 ^ k) : IsDigits k (padded k n) n where
  length := by
    have hle := (Nat.length_toDigits_le_iff (by decide) hk).mpr h
    rw [padded, List.length_append, List.length_replicate]
    omega
  digits c hc := by
    rcases List.mem_append.mp hc with hc | hc
    · rw [(List.mem_replicate.mp hc).2]
      rfl
    · exact Nat.isDigit_of_mem_toDigits (by decide) (by decide) hc
  value := by
    rw [padded, Nat.ofDigitChars_append, Nat.ofDigitChars_replicate_zero, Nat.mul_zero,
      Nat.ofDigitChars_toDigits (by decide) (by decide)]

theorem isDigits_two (h : n ≤ 99) : IsDigits 2 (padded 2 n) n :=
  isDigits_padded (by decide) (by omega)

namespace IsDigits

theorem head (h : IsDigits (k + 1) ds n) : ∃ c, [c] <+: ds ∧ c.isDigit = true := by
  obtain ⟨c, ds, rfl⟩ := List.exists_cons_of_ne_nil (List.ne_nil_of_length_eq_add_one h.length)
  exact ⟨c, List.prefix_append [c] ds, h.digits c List.mem_cons_self⟩

theorem last (h : IsDigits (k + 1) ds n) : ∃ c, [c] <:+ ds ∧ c.isDigit = true := by
  have hne := List.ne_nil_of_length_eq_add_one h.length
  exact ⟨_, ⟨_, List.dropLast_concat_getLast hne⟩, h.digits _ (List.getLast_mem hne)⟩

theorem digits_append (h : IsDigits k ds n) (rest : List Char) :
    Timestamp.digits k (ds ++ rest) = some (n, rest) := by
  induction k generalizing ds n with
  | zero =>
    obtain rfl := List.eq_nil_of_length_eq_zero h.length
    obtain rfl := h.value
    rfl
  | succ k ih =>
    obtain ⟨c, ds, rfl⟩ := List.exists_cons_of_ne_nil (List.ne_nil_of_length_eq_add_one h.length)
    have hlength := Nat.succ.inj h.length
    have htail : IsDigits k ds (Nat.ofDigitChars 10 ds 0) :=
      ⟨hlength, fun d hd => h.digits d (List.mem_cons_of_mem c hd), rfl⟩
    refine digits_succ_eq_some_iff.mpr
      ⟨c, ds ++ rest, _, rfl, h.digits c List.mem_cons_self, ih htail, ?_⟩
    rw [← h.value, Nat.ofDigitChars_cons, Nat.ofDigitChars_eq_ofDigitChars_zero, hlength,
      Nat.mul_zero, Nat.zero_add, Nat.mul_comm]
    rfl

theorem pair_append {low high : Nat} (h : IsDigits 2 ds n) (hlow : low ≤ n) (hhigh : n ≤ high)
    (rest : List Char) : pair low high (ds ++ rest) = some (n, rest) := by
  unfold pair
  rw [h.digits_append]
  exact if_pos ⟨hlow, hhigh⟩

theorem year_append (h : IsDigits 4 ds n) (rest : List Char) :
    year (ds ++ rest) = some ((n : Int), rest) := by
  have hunsigned : sign (ds ++ rest) = none := by
    rw [Option.eq_none_iff_forall_ne_some]
    rintro ⟨negative, r⟩ hsign
    obtain ⟨c, hcons, hc⟩ := sign_eq_some hsign
    obtain ⟨d, hd, hdigit⟩ := h.head
    have hprefix := hd.trans (List.prefix_append ds rest)
    rw [hcons, List.cons_prefix_cons] at hprefix
    obtain rfl := hprefix.1
    rcases hc with ⟨rfl, -⟩ | ⟨rfl, -⟩ <;> exact absurd hdigit (by decide)
  unfold year
  rw [hunsigned, h.digits_append]
  rfl

end IsDigits

/-! ## Fractions of a second -/

/-- The texts for a number of nanoseconds below a second. -/
inductive IsFraction : List Char → Nat → Prop
  | whole : IsFraction [] 0
  | digits {k n : Nat} {ds : List Char} : 1 ≤ k → k ≤ 9 → IsDigits k ds n →
      IsFraction ('.' :: ds) (n * 10 ^ (9 - k))

/-- What a fraction cannot go on with. -/
def EndsFraction (rest : List Char) : Prop := ∀ c, [c] <+: rest → c ≠ '.' ∧ c.isDigit = false

theorem EndsFraction.dropWhile_eq (h : EndsFraction rest) :
    rest.takeWhile Char.isDigit = [] ∧ rest.dropWhile Char.isDigit = rest := by
  cases rest with
  | nil => exact ⟨rfl, rfl⟩
  | cons c rest =>
    have hc := (h c (List.prefix_append [c] rest)).2
    exact ⟨List.takeWhile_cons_of_neg (by simp [hc]), List.dropWhile_cons_of_neg (by simp [hc])⟩

theorem IsDigits.fraction_append (h : IsDigits k ds n) (hk : 1 ≤ k) (hk' : k ≤ 9)
    (hrest : EndsFraction rest) : fraction (ds ++ rest) = some (n * 10 ^ (9 - k), rest) := by
  have htake : (ds ++ rest).takeWhile Char.isDigit = ds := by
    rw [List.takeWhile_append_of_pos h.digits, hrest.dropWhile_eq.1, List.append_nil]
  have hdrop : (ds ++ rest).dropWhile Char.isDigit = rest := by
    rw [List.dropWhile_append_of_pos h.digits, hrest.dropWhile_eq.2]
  have hne : ds.isEmpty = false := by
    rw [List.isEmpty_eq_false_iff, ← List.length_pos_iff, h.length]
    omega
  have hkept : Decimal.natOf (ds.take 9 ++ List.replicate (9 - ds.length) '0') =
      n * 10 ^ (9 - k) := by
    rw [Decimal.natOf_eq, List.take_of_length_le (h.length.trans_le hk'), Nat.ofDigitChars_append,
      Nat.ofDigitChars_replicate_zero, h.value, h.length, Nat.mul_comm]
  unfold fraction
  simp only [htake, hdrop, hne]
  exact congrArg (fun n => some (n, rest)) hkept

theorem IsFraction.optionalFraction_append {f : List Char} (h : IsFraction f n)
    (hrest : EndsFraction rest) : optionalFraction (f ++ rest) = some (n, rest) := by
  cases h with
  | whole =>
    unfold optionalFraction
    rw [List.nil_append]
    split
    · exact absurd rfl (hrest '.' (List.prefix_append ['.'] _)).1
    · rfl
  | digits hk hk' hds => exact hds.fraction_append hk hk' hrest

end AccountRegistry.Timestamp
