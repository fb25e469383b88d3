import AccountRegistry.Query.Condition
import AccountRegistry.Relational.Error
import AccountRegistry.Shape.FromValue
import AccountRegistry.Shape.Write

/-! # Rows

An account as a row of the row statement, and values as they are bound to statements. Instants in a
database reach much further than timestamps do.
-/

namespace AccountRegistry

/-- An instant as a database client holds it: whole seconds from the start of 1970, and nanoseconds,
which go beyond a second within a leap second. -/
structure RowInstant where
  seconds : Int
  nanos : Nat
  seconds_ge : -8334601228800 ≤ seconds
  seconds_le : seconds ≤ 8210266876799
  nanos_lt : nanos < 2000000000
  deriving DecidableEq, Repr

namespace RowInstant

/-- The start of 1970. -/
def epoch : RowInstant := ⟨0, 0, by decide, by decide, by decide⟩

/-- Nanoseconds from the start of 1970. -/
def toNanos (i : RowInstant) : Int := i.seconds * Timestamp.nanosPerSecond + i.nanos

/-- The instant of a timestamp. -/
def ofTimestamp (t : Timestamp) : RowInstant :=
  let seconds := t.nanos / Timestamp.nanosPerSecond
  let nanos := (t.nanos % Timestamp.nanosPerSecond).toNat
  if h : -8334601228800 ≤ seconds ∧ seconds ≤ 8210266876799 then
    ⟨seconds, nanos, h.1, h.2, by
      have := Int.emod_lt_of_pos t.nanos (b := Timestamp.nanosPerSecond) (by decide)
      simp only [Timestamp.nanosPerSecond] at this
      simp only [nanos, Timestamp.nanosPerSecond]
      omega⟩
  else epoch

/-- The timestamp of an instant. Seconds beyond the range of timestamps count as none. The
nanoseconds of a leap second may lead behind the last timestamp, at the end of the year 9999; a read
of such a row crashes, see `RelationalStore.readRow`. -/
def toTimestamp (i : RowInstant) : Timestamp :=
  let seconds := if Timestamp.InRange (i.seconds * Timestamp.nanosPerSecond) then i.seconds else 0
  ⟨seconds * Timestamp.nanosPerSecond + i.nanos, 0⟩

end RowInstant

/-- A value bound to a placeholder. -/
inductive BoundValue
  | null
  | text (s : String)
  | bool (b : Bool)
  | uuid (u : Uuid)
  | instant (i : RowInstant)
  deriving DecidableEq, Repr

def Datum.bound : Datum → BoundValue
  | .text s => .text s
  | .uuid u => .uuid u
  | .bool b => .bool b
  | .timestamp t => .instant (.ofTimestamp t)
  | .null => .null

structure AccountRow where
  id : Uuid
  kind : String
  currency : String
  number : String
  companyId : Uuid
  companyName : String
  bankInfo : Option Json.Value
  archived : Bool
  created : RowInstant
  modified : RowInstant

namespace AccountRow

/-- Bank details; a missing column and a null in it both mean that there are none. -/
def readBankInfo : Option Json.Value → Except String (Option BankInfo)
  | none | some .null => .ok none
  | some v => (BankInfo.shape.ofValue v).map some

/-- Reads a part of a row and blames the row if that fails. -/
def part {α : Type} (row : AccountRow) (r : Except String α) : Except DatabaseError α :=
  r.mapError fun reason => .row s!"account {row.id.text}: {reason}"

def toAccount (row : AccountRow) : Except DatabaseError Account := do
  let bankInfo ← row.part ((readBankInfo row.bankInfo).mapError ("additional_info: " ++ ·))
  let kind ← row.part (withMessage FieldError.message (AccountType.read row.kind))
  let currency ← row.part (withMessage FieldError.message (CurrencyCode.read row.currency))
  let number ← row.part (withMessage FieldError.message (AccountNumber.read row.number))
  return {
    id := row.id
    kind, currency, number
    companyId := row.companyId
    companyName := row.companyName
    bankInfo
    archived := row.archived
    created := row.created.toTimestamp
    modified := row.modified.toTimestamp }

/-- The bank details of an account as a column holds them. -/
def writeBankInfo : Option BankInfo → Option Json.Value
  | none => none
  | some b =>
    match BankInfo.shape.write b with
    | .ok v => some v
    | .error _ => none

/-- The row of an account. -/
def ofAccount (a : Account) : AccountRow where
  id := a.id
  kind := a.kind.name
  currency := a.currency.text
  number := a.number.text
  companyId := a.companyId
  companyName := a.companyName
  bankInfo := writeBankInfo a.bankInfo
  archived := a.archived
  created := .ofTimestamp a.created
  modified := .ofTimestamp a.modified

end AccountRow

end AccountRegistry
