import AccountRegistry.Proofs.Account
import AccountRegistry.Proofs.Relational.Instants

/-! # Rows and accounts

A row is read as the account that its columns describe, one column for each part. The row of an
account is read as that account with its instants in UTC.
-/

namespace AccountRegistry

open Timestamp

/-- An account whose instants are given in UTC. -/
def Account.inUtc (a : Account) : Account :=
  { a with created := ⟨a.created.nanos, 0⟩, modified := ⟨a.modified.nanos, 0⟩ }

/-- An instant in the years 0 to 9999, in UTC. -/
def Timestamp.HasFourDigitYear (t : Timestamp) : Prop :=
  0 ≤ (clock ⟨t.nanos, 0⟩).date.year ∧ (clock ⟨t.nanos, 0⟩).date.year ≤ 9999

theorem Timestamp.HasFourDigitYear.inRange {t : Timestamp} (h : t.HasFourDigitYear) :
    InRange t.nanos := by
  obtain ⟨hnonneg, hle⟩ := h
  exact inRange_of_year (by omega)

theorem AccountType.read_name (t : AccountType) : read t.name = .ok t := by
  cases t <;> rfl

namespace AccountRow

/-- What every column of a row says of an account. -/
structure Describes (row : AccountRow) (a : Account) : Prop where
  id : row.id = a.id
  kind : AccountType.read row.kind = .ok a.kind
  currency : CurrencyCode.read row.currency = .ok a.currency
  number : AccountNumber.read row.number = .ok a.number
  companyId : row.companyId = a.companyId
  companyName : row.companyName = a.companyName
  bankInfo : readBankInfo row.bankInfo = .ok a.bankInfo
  archived : row.archived = a.archived
  created : row.created.toTimestamp = a.created
  modified : row.modified.toTimestamp = a.modified

theorem part_eq_ok_iff {α : Type} {row : AccountRow} {r : Except String α} {x : α} :
    row.part r = .ok x ↔ r = .ok x :=
  mapError_eq_ok_iff

/-- A row is read as an account exactly if all its columns say so. -/
theorem toAccount_eq_ok_iff {row : AccountRow} {a : Account} :
    row.toAccount = .ok a ↔ row.Describes a := by
  unfold toAccount
  simp only [bind_eq_ok_iff, part_eq_ok_iff, mapError_eq_ok_iff, withMessage_eq_ok_iff]
  constructor
  · rintro ⟨bankInfo, hbank, kind, hkind, currency, hcurrency, number, hnumber, h⟩
    cases h
    exact ⟨rfl, hkind, hcurrency, hnumber, rfl, rfl, hbank, rfl, rfl, rfl⟩
  · rintro ⟨hid, hkind, hcurrency, hnumber, hcompany, hname, hbank, harchived, hcreated, hmodified⟩
    refine ⟨_, hbank, _, hkind, _, hcurrency, _, hnumber, ?_⟩
    rw [hid, hcompany, hname, harchived, hcreated, hmodified]
    rfl

/-! ## Instants of a row -/

/-- An account has the instants of its row as long as these, and the seconds that they lie in, are
in the years of timestamps. A second outside of them is replaced by the first of 1970. -/
theorem toAccount_keeps_instants {row : AccountRow} {a : Account} (h : row.toAccount = .ok a)
    {i : RowInstant} {t : Timestamp}
    (hcolumn : i = row.created ∧ t = a.created ∨ i = row.modified ∧ t = a.modified) :
    (InRange (i.seconds * nanosPerSecond) → InRange i.toNanos → t = ⟨i.toNanos, 0⟩) ∧
      (¬ InRange (i.seconds * nanosPerSecond) → t = ⟨i.nanos, 0⟩ ∧ t.nanos ≠ i.toNanos) := by
  have hrow := toAccount_eq_ok_iff.mp h
  have ht : i.toTimestamp = t := by
    rcases hcolumn with ⟨rfl, rfl⟩ | ⟨rfl, rfl⟩
    · exact hrow.created
    · exact hrow.modified
  subst ht
  constructor
  · intro hsecond _
    exact RowInstant.toTimestamp_of_inRange hsecond
  · intro hsecond
    exact ⟨RowInstant.toTimestamp_of_not_inRange hsecond,
      RowInstant.nanos_ne_of_not_inRange hsecond⟩

/-- The middle of the leap second at the end of 2016. -/
def leapSecond : RowInstant := ⟨1483228799, 1500000000, by decide, by decide, by decide⟩

def leapSecondRow : AccountRow := { ofAccount default with created := leapSecond }

theorem toAccount_keeps_leapSecond :
    ∃ a, leapSecondRow.toAccount = .ok a ∧ a.created = ⟨leapSecond.toNanos, 0⟩ := by
  have h : leapSecondRow.toAccount =
      .ok { (default : Account) with created := ⟨1483228800500000000, 0⟩ } := rfl
  exact ⟨_, h, (toAccount_keeps_instants h (.inl ⟨rfl, rfl⟩)).1 (by decide) (by decide)⟩

/-- The start of the year 10000. -/
def yearTenThousand : RowInstant :=
  ⟨253402300800, 0, by decide, by decide, RowInstant.epoch.nanos_lt⟩

/-- A row of the year 10000 is read as an account of 1970. -/
theorem year_ten_thousand_is_read_as_1970 :
    ({ ofAccount default with created := yearTenThousand } : AccountRow).toAccount =
        .ok { (default : Account) with created := ⟨0, 0⟩ } ∧
      yearTenThousand.toNanos ≠ 0 :=
  ⟨rfl, by decide⟩

/-! ## Rows of accounts -/

/-- Bank details in a column are read back, whichever of their parts are there. -/
theorem readBankInfo_write (info : Option BankInfo) :
    readBankInfo (writeBankInfo info) = .ok info := by
  rcases info with _ | ⟨bank, name, address⟩
  · rfl
  · cases name <;> cases address <;> rfl

/-- The row of an account; where there are no bank details, their column may also hold a null. -/
def Encodes (row : AccountRow) (a : Account) : Prop :=
  row = ofAccount a ∨ a.bankInfo = none ∧ row = { ofAccount a with bankInfo := some .null }

theorem describes_ofAccount {a : Account} (hcreated : InRange a.created.nanos)
    (hmodified : InRange a.modified.nanos) : (ofAccount a).Describes a.inUtc where
  id := rfl
  kind := a.kind.read_name
  currency := a.currency.read_text
  number := a.number.read_text
  companyId := rfl
  companyName := rfl
  bankInfo := readBankInfo_write a.bankInfo
  archived := rfl
  created := RowInstant.toTimestamp_ofTimestamp hcreated
  modified := RowInstant.toTimestamp_ofTimestamp hmodified

theorem Encodes.describes {row : AccountRow} {a : Account} (h : row.Encodes a)
    (hcreated : InRange a.created.nanos) (hmodified : InRange a.modified.nanos) :
    row.Describes a.inUtc := by
  have hrow := describes_ofAccount hcreated hmodified
  rcases h with rfl | ⟨hnone, rfl⟩
  · exact hrow
  · exact { hrow with bankInfo := congrArg Except.ok hnone.symm }

/-- Rows give back their accounts, and the instants bound to statements those of their timestamps,
in the same order. -/
theorem decoding_undoes_encoding :
    (∀ row a, Encodes row a → a.created.HasFourDigitYear → a.modified.HasFourDigitYear →
      row.toAccount = .ok a.inUtc) ∧
    (∀ s t, ofText s = .ok t → t.FitsRow) ∧
    (∀ t, t.FitsRow → ∃ i, Datum.bound (.timestamp t) = .instant i ∧ i.toNanos = t.nanos ∧
      i.nanos < 1000000000) ∧
    ∀ t u, t.FitsRow → u.FitsRow → ∃ i j, Datum.bound (.timestamp t) = .instant i ∧
      Datum.bound (.timestamp u) = .instant j ∧ i.compare j = Timestamp.compare t u := by
  refine ⟨fun row a h hcreated hmodified => ?_, fun s t => fitsRow_of_ofText, fun t h => ?_,
    fun t u ht hu => ?_⟩
  · exact toAccount_eq_ok_iff.mpr (h.describes hcreated.inRange hmodified.inRange)
  · refine ⟨_, rfl, RowInstant.toNanos_ofTimestamp h, ?_⟩
    have hnanos := RowInstant.nanos_ofTimestamp h
    unfold nanosPerSecond at hnanos
    omega
  · exact ⟨_, _, rfl, rfl, RowInstant.compare_ofTimestamp ht hu⟩

/-- An account of the last nanosecond before 1970, with an offset and half of its bank details. -/
def lateAccount : Account :=
  { (default : Account) with
    bankInfo := some ⟨"Bank", none, some "Street 1"⟩
    created := ⟨-1, 330⟩ }

theorem decoding_undoes_encoding_lateAccount :
    (ofAccount lateAccount).toAccount = .ok lateAccount.inUtc ∧
      ∃ t, ofText "1970-01-01T05:29:59.999999999+05:30" = .ok t ∧
        (∃ i, Datum.bound (.timestamp t) = .instant i ∧ i.toNanos = -1 ∧ i.nanos < 1000000000) ∧
        ∃ i j, Datum.bound (.timestamp t) = .instant i ∧
          Datum.bound (.timestamp ⟨0, 0⟩) = .instant j ∧ i.compare j = .lt := by
  obtain ⟨hrow, hread, hexact, horder⟩ := decoding_undoes_encoding
  have ht : ofText "1970-01-01T05:29:59.999999999+05:30" = .ok ⟨-1, 330⟩ := rfl
  refine ⟨hrow _ _ (.inl rfl) ⟨by decide, by decide⟩ ⟨by decide, by decide⟩, _, ht, ?_, ?_⟩
  · exact hexact _ (hread _ _ ht)
  · exact horder _ _ (hread _ _ ht) ⟨by decide, by decide⟩

end AccountRow

end AccountRegistry
