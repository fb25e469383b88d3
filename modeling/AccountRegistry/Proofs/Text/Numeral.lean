import AccountRegistry.Decimal.Plain
import AccountRegistry.Text.Blank
import Mathlib.Algebra.Group.Nat.Defs
import Mathlib.Data.List.TakeDrop
import Mathlib.Data.List.TakeWhile

/-! # Numbers between blanks

A number is a run of digits, with or without a plus sign, and blanks around it do not count.
-/

namespace AccountRegistry

namespace Text

/-- What trimming takes away are blanks. -/
theorem exists_eq_append_trim (cs : List Char) : ∃ before after, cs = before ++ trim cs ++ after ∧
    (∀ c ∈ before, isBlank c = true) ∧ ∀ c ∈ after, isBlank c = true := by
  refine ⟨cs.takeWhile isBlank, ((trimStart cs).reverse.takeWhile isBlank).reverse, ?_, ?_, ?_⟩
  · rw [trim, trimEnd, List.append_assoc, ← List.reverse_append, List.takeWhile_append_dropWhile,
      List.reverse_reverse, trimStart, List.takeWhile_append_dropWhile]
  · exact fun c hc => List.mem_takeWhile_imp hc
  · intro c hc
    exact List.mem_takeWhile_imp (List.mem_reverse.mp hc)

/-- Blanks around a text that neither begins nor ends with one are what trimming takes away. -/
theorem trim_of_ends {before cs after : List Char} {first last : Char} (hfirst : [first] <+: cs)
    (hfirst' : isBlank first = false) (hlast : [last] <:+ cs) (hlast' : isBlank last = false)
    (hbefore : ∀ c ∈ before, isBlank c = true) (hafter : ∀ c ∈ after, isBlank c = true) :
    trim (before ++ cs ++ after) = cs := by
  have hstart : trimStart (before ++ cs ++ after) = cs ++ after := by
    rw [trimStart, List.append_assoc, List.dropWhile_append_of_pos hbefore]
    obtain ⟨rest, rfl⟩ := hfirst
    exact List.dropWhile_cons_of_neg (by simp [hfirst'])
  have hreverse : cs.reverse.dropWhile isBlank = cs.reverse := by
    obtain ⟨start, rfl⟩ := hlast
    rw [List.reverse_append]
    exact List.dropWhile_cons_of_neg (by simp [hlast'])
  have hblanks : ∀ c ∈ after.reverse, isBlank c = true := by simpa using hafter
  rw [trim, hstart, trimEnd, List.reverse_append, List.dropWhile_append_of_pos hblanks, hreverse,
    List.reverse_reverse]

/-- Blanks around a text without blanks are what trimming takes away. -/
theorem trim_of_not_blank {before cs after : List Char} (hne : cs ≠ [])
    (hcs : ∀ c ∈ cs, isBlank c = false) (hbefore : ∀ c ∈ before, isBlank c = true)
    (hafter : ∀ c ∈ after, isBlank c = true) : trim (before ++ cs ++ after) = cs :=
  trim_of_ends ⟨_, List.cons_head_tail hne⟩ (hcs _ (List.head_mem hne))
    ⟨_, List.dropLast_concat_getLast hne⟩ (hcs _ (List.getLast_mem hne)) hbefore hafter

theorem isBlank_of_isDigit {c : Char} (h : c.isDigit = true) : isBlank c = false := by
  simp only [Char.isDigit, Bool.and_eq_true, decide_eq_true_eq, ge_iff_le, UInt32.le_iff_toNat_le]
    at h
  have hlow : 48 ≤ c.toNat := h.1
  have hhigh : c.toNat ≤ 57 := h.2
  simp only [isBlank, Bool.or_eq_false_iff, Bool.and_eq_false_iff, decide_eq_false_iff_not,
    beq_eq_false_iff_ne]
  omega

end Text

namespace Decimal

/-- A run of digits that stands for a number, perhaps after a plus sign. -/
def IsNumeral (cs : List Char) (n : Nat) : Prop :=
  ∃ sign digits, cs = sign ++ digits ∧ (sign = [] ∨ sign = ['+']) ∧ digits ≠ [] ∧
    (∀ c ∈ digits, c.isDigit = true) ∧ Nat.ofDigitChars 10 digits 0 = n

theorem sub_zero_lt_of_isDigit {c : Char} (h : c.isDigit = true) : c.toNat - '0'.toNat < 10 := by
  simp only [Char.isDigit, Bool.and_eq_true, decide_eq_true_eq, UInt32.le_iff_toNat_le] at h
  have hhigh : c.toNat ≤ 57 := h.2
  have hzero : '0'.toNat = 48 := rfl
  omega

/-- Digits write numbers of their length. -/
theorem ofDigitChars_lt {digits : List Char} (h : ∀ c ∈ digits, c.isDigit = true) (n : Nat) :
    Nat.ofDigitChars 10 digits n < (n + 1) * 10 ^ digits.length := by
  induction digits generalizing n with
  | nil => simp
  | cons c digits ih =>
    rw [List.forall_mem_cons] at h
    have hdigit := sub_zero_lt_of_isDigit h.1
    rw [Nat.ofDigitChars_cons, List.length_cons]
    calc Nat.ofDigitChars 10 digits (10 * n + (c.toNat - '0'.toNat))
        < (10 * n + (c.toNat - '0'.toNat) + 1) * 10 ^ digits.length := ih h.2 _
      _ ≤ ((n + 1) * 10) * 10 ^ digits.length := Nat.mul_le_mul_right _ (by omega)
      _ = (n + 1) * 10 ^ (digits.length + 1) := by rw [Nat.mul_assoc, Nat.pow_succ']

/-- No digits for a number are fewer than those it is written in. -/
theorem length_toDigits_le {digits : List Char} (hne : digits ≠ [])
    (h : ∀ c ∈ digits, c.isDigit = true) :
    (Nat.toDigits 10 (Nat.ofDigitChars 10 digits 0)).length ≤ digits.length := by
  rw [Nat.length_toDigits_le_iff (by decide) (List.length_pos_iff.mpr hne)]
  simpa using ofDigitChars_lt h 0

theorem natOf_eq (digits : List Char) : natOf digits = Nat.ofDigitChars 10 digits 0 := by
  unfold natOf Nat.ofDigitChars
  simp only [Nat.mul_comm 10]
  rfl

/-- The number of a run of digits, if it has at most 64 bits. -/
def digits64? (digits : List Char) : Option Nat :=
  if !digits.isEmpty && digits.all Char.isDigit && natOf digits < UInt64.size then
    some (natOf digits)
  else none

theorem digits64?_eq_some_iff {digits : List Char} {n : Nat} :
    digits64? digits = some n ↔ digits ≠ [] ∧ (∀ c ∈ digits, c.isDigit = true) ∧
      Nat.ofDigitChars 10 digits 0 = n ∧ n < UInt64.size := by
  rw [digits64?, natOf_eq]
  simp only [Option.ite_none_right_eq_some, Option.some.injEq, Bool.and_eq_true,
    Bool.not_eq_true', List.isEmpty_eq_false_iff, List.all_eq_true, decide_eq_true_eq]
  constructor
  · rintro ⟨⟨⟨hne, hdigits⟩, hsize⟩, rfl⟩
    exact ⟨hne, hdigits, rfl, hsize⟩
  · rintro ⟨hne, hdigits, rfl, hsize⟩
    exact ⟨⟨⟨hne, hdigits⟩, hsize⟩, rfl⟩

theorem natural64?_plus (digits : List Char) : natural64? ('+' :: digits) = digits64? digits := rfl

theorem natural64?_of_head_ne {cs : List Char} (h : ∀ r, cs ≠ '+' :: r) :
    natural64? cs = digits64? cs := by
  unfold natural64? digits64?
  split
  · next r => exact absurd rfl (h r)
  · rfl

theorem natural64?_eq_some_iff {cs : List Char} {n : Nat} :
    natural64? cs = some n ↔ IsNumeral cs n ∧ n < UInt64.size := by
  constructor
  · intro h
    by_cases hplus : ∃ r, cs = '+' :: r
    · obtain ⟨r, rfl⟩ := hplus
      rw [natural64?_plus] at h
      obtain ⟨hne, hdigits, hn, hsize⟩ := digits64?_eq_some_iff.mp h
      exact ⟨⟨['+'], r, rfl, .inr rfl, hne, hdigits, hn⟩, hsize⟩
    · rw [natural64?_of_head_ne fun r hr => hplus ⟨r, hr⟩] at h
      obtain ⟨hne, hdigits, hn, hsize⟩ := digits64?_eq_some_iff.mp h
      exact ⟨⟨[], cs, rfl, .inl rfl, hne, hdigits, hn⟩, hsize⟩
  · rintro ⟨⟨sign, digits, rfl, rfl | rfl, hne, hdigits, hn⟩, hsize⟩
    · rw [natural64?_of_head_ne]
      · exact digits64?_eq_some_iff.mpr ⟨hne, hdigits, hn, hsize⟩
      · rintro r rfl
        exact absurd (hdigits '+' (.head _)) (by decide)
    · rw [List.singleton_append, natural64?_plus]
      exact digits64?_eq_some_iff.mpr ⟨hne, hdigits, hn, hsize⟩

theorem IsNumeral.not_blank {cs : List Char} {n : Nat} (h : IsNumeral cs n) :
    cs ≠ [] ∧ ∀ c ∈ cs, Text.isBlank c = false := by
  obtain ⟨sign, digits, rfl, hsign, hne, hdigits, -⟩ := h
  refine ⟨by simp [hne], List.forall_mem_append.mpr ⟨?_, fun c hc => ?_⟩⟩
  · rcases hsign with rfl | rfl
    · exact List.forall_mem_nil _
    · exact List.forall_mem_singleton.mpr (by decide)
  · exact Text.isBlank_of_isDigit (hdigits c hc)

/-- A number with blanks around it. -/
def IsPaddedNumeral (cs : List Char) (n : Nat) : Prop :=
  ∃ before core after, cs = before ++ core ++ after ∧ IsNumeral core n ∧
    (∀ c ∈ before, Text.isBlank c = true) ∧ ∀ c ∈ after, Text.isBlank c = true

theorem isNumeral_trim_iff {cs : List Char} {n : Nat} :
    IsNumeral (Text.trim cs) n ↔ IsPaddedNumeral cs n := by
  constructor
  · intro h
    obtain ⟨before, after, hcs, hbefore, hafter⟩ := Text.exists_eq_append_trim cs
    exact ⟨before, _, after, hcs, h, hbefore, hafter⟩
  · rintro ⟨before, core, after, rfl, hcore, hbefore, hafter⟩
    rw [Text.trim_of_not_blank hcore.not_blank.1 hcore.not_blank.2 hbefore hafter]
    exact hcore

theorem natural64?_trim_eq_some_iff {cs : List Char} {n : Nat} :
    natural64? (Text.trim cs) = some n ↔ IsPaddedNumeral cs n ∧ n < UInt64.size := by
  rw [natural64?_eq_some_iff, isNumeral_trim_iff]

end Decimal

end AccountRegistry
