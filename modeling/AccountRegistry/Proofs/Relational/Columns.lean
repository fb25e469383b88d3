import AccountRegistry.Proofs.Filter.Decided
import AccountRegistry.Proofs.Names
import AccountRegistry.Proofs.Relational.Rows
import AccountRegistry.Proofs.Store.Files
import AccountRegistry.Relational.Migration

/-! # Columns of accounts

The script that creates the tables says which texts the columns for the type, the currency and the
number of an account can hold. They are the texts that these parts of an account are read from, save
that a column holds no NUL, and that a currency is also read from digits beyond ASCII.
-/

namespace AccountRegistry

/-! ## Declarations -/

/-- What a table asks of the texts in a column. -/
inductive ColumnCheck
  /-- So many characters, all of them in a range. -/
  | run (first last : Char) (count : Nat)
  | atLeast (count : Nat)

def ColumnCheck.sql (column : String) : ColumnCheck → String
  | .run first last count => s!"{column} ~ '^[{first}-{last}]\x7b{count}\x7d$'"
  | .atLeast count => s!"char_length({column}) >= {count}"

def ColumnCheck.Holds (s : String) : ColumnCheck → Prop
  | .run first last count => s.length = count ∧ ∀ c ∈ s.toList, first ≤ c ∧ c ≤ last
  | .atLeast count => count ≤ s.length

/-- The line of a table that declares a column of texts. -/
def columnLine (name : String) (maxLength : Nat) (unique : Bool) (check : ColumnCheck) : String :=
  s!"    {name} VARCHAR({maxLength}) NOT NULL " ++ (if unique then "UNIQUE " else "") ++
    s!"CHECK ({check.sql name}),"

/-- A column of texts of bounded length in the table of accounts. -/
structure TextColumn where
  name : String
  maxLength : Nat
  unique : Bool
  check : ColumnCheck
  declared : columnLine name maxLength unique check ∈ Migration.accountsSchema

/-- A column can hold a text on its own; that no other row has it too is a matter of the rows. A
database stores no text with a NUL. -/
def TextColumn.Admits (c : TextColumn) (s : String) : Prop :=
  '\x00' ∉ s.toList ∧ s.length ≤ c.maxLength ∧ c.check.Holds s

/-- The end of the definition of a type by its labels. -/
def labelLines : List String → List String
  | [] => ["    );"]
  | [label] => [s!"        '{label}'", "    );"]
  | label :: labels => s!"        '{label}'," :: labelLines labels

/-- A column of labels in the table of accounts, and the type that lists the labels. -/
structure LabelColumn where
  name : String
  type : String
  labels : List String
  declared : s!"    \"{name}\" {type} NOT NULL," ∈ Migration.accountsSchema
  defined : (s!"    CREATE TYPE {type} AS ENUM (" :: labelLines labels) <:+: Migration.accountsSchema

def LabelColumn.Admits (c : LabelColumn) (s : String) : Prop := s ∈ c.labels

def kindColumn : LabelColumn where
  name := "type"
  type := "account_type"
  labels := ["account-type-1", "account-type-2", "account-type-3", "account-type-4"]
  declared := by decide +kernel
  defined := by decide +kernel

def currencyColumn : TextColumn where
  name := "currency"
  maxLength := 3
  unique := false
  check := .run '0' '9' 3
  declared := by decide +kernel

def numberColumn : TextColumn where
  name := "account"
  maxLength := 34
  unique := true
  check := .atLeast 8
  declared := by decide +kernel

/-! ## Texts of the columns -/

/-- In ASCII the only decimal digits are the common ones. -/
theorem Text.isDecimalDigit_ascii_iff {c : Char} :
    isDecimalDigit c = true ∧ c.toNat < 0x80 ↔ '0' ≤ c ∧ c ≤ '9' := by
  have hrange : '0' ≤ c ∧ c ≤ '9' ↔ 0x30 ≤ c.toNat ∧ c.toNat ≤ 0x39 := Iff.rfl
  have hzeros : 0x30 ∈ digitZeros ∧ ∀ z ∈ digitZeros, z = 0x30 ∨ 0x80 ≤ z := by decide
  rw [hrange, isDecimalDigit, List.any_eq_true]
  simp only [Bool.and_eq_true, decide_eq_true_eq]
  constructor
  · rintro ⟨⟨z, hz, hlow, hhigh⟩, hascii⟩
    have hzero := hzeros.2 z hz
    omega
  · rintro ⟨hlow, hhigh⟩
    exact ⟨⟨0x30, hzeros.1, hlow, hhigh⟩, by omega⟩

theorem admits_kindColumn_iff {s : String} :
    kindColumn.Admits s ↔ ∃ t, AccountType.read s = .ok t := by
  have hlabels : kindColumn.labels = AccountType.all.map AccountType.name := rfl
  simp only [AccountType.read_eq_ok_iff, LabelColumn.Admits, hlabels, List.mem_map]
  exact exists_congr fun t => and_iff_right t.mem_all

/-- A currency column holds the texts of ASCII that a currency is read from. -/
theorem admits_currencyColumn_iff {s : String} :
    currencyColumn.Admits s ↔ (∃ c, CurrencyCode.read s = .ok c) ∧ Text.IsAscii s := by
  simp only [CurrencyCode.read_eq_ok_iff]
  constructor
  · rintro ⟨-, -, hlength, hdigits⟩
    have hboth := fun c hc => Text.isDecimalDigit_ascii_iff.mpr (hdigits c hc)
    exact ⟨⟨⟨s, hlength, List.all_eq_true.mpr fun c hc => (hboth c hc).1⟩, rfl⟩,
      fun c hc => (hboth c hc).2⟩
  · rintro ⟨⟨c, rfl⟩, hascii⟩
    obtain ⟨hlength, hdigits⟩ := c.valid
    have hcommon : ∀ d ∈ c.text.toList, '0' ≤ d ∧ d ≤ '9' := fun d hd =>
      Text.isDecimalDigit_ascii_iff.mp ⟨List.all_eq_true.mp hdigits d hd, hascii d hd⟩
    exact ⟨fun hnul => absurd (hcommon _ hnul).1 (by decide), hlength.le, hlength, hcommon⟩

theorem admits_numberColumn_iff {s : String} (h : '\x00' ∉ s.toList) :
    numberColumn.Admits s ↔ ∃ n, AccountNumber.read s = .ok n := by
  simp only [AccountNumber.read_eq_ok_iff]
  constructor
  · rintro ⟨-, hle, hge⟩
    exact ⟨⟨s, hge, hle⟩, rfl⟩
  · rintro ⟨n, rfl⟩
    exact ⟨h, n.valid.2, n.valid.1⟩

/-! ## Rows -/

namespace AccountRow

/-- The columns for type, currency and number can hold what a row has there. -/
structure Fits (row : AccountRow) : Prop where
  kind : kindColumn.Admits row.kind
  currency : currencyColumn.Admits row.currency
  number : numberColumn.Admits row.number

theorem fits_ofAccount_iff {a : Account} (h : '\x00' ∉ a.number.text.toList) :
    (ofAccount a).Fits ↔ Text.IsAscii a.currency.text := by
  have hcurrency := admits_currencyColumn_iff (s := a.currency.text)
  rw [and_iff_right ⟨_, a.currency.read_text⟩] at hcurrency
  rw [← hcurrency]
  refine ⟨Fits.currency, fun hadmits => ⟨?_, hadmits, ?_⟩⟩
  · exact admits_kindColumn_iff.mpr ⟨_, a.kind.read_name⟩
  · exact (admits_numberColumn_iff h).mpr ⟨_, a.number.read_text⟩

/-- A row that fits is an account if its bank details can be read. -/
theorem Fits.exists_toAccount_iff {row : AccountRow} (h : row.Fits) :
    (∃ a, row.toAccount = .ok a) ↔ ∃ info, readBankInfo row.bankInfo = .ok info := by
  obtain ⟨kind, hkind⟩ := admits_kindColumn_iff.mp h.kind
  obtain ⟨⟨currency, hcurrency⟩, -⟩ := admits_currencyColumn_iff.mp h.currency
  obtain ⟨number, hnumber⟩ := (admits_numberColumn_iff h.number.1).mp h.number
  simp only [toAccount_eq_ok_iff]
  constructor
  · rintro ⟨a, ha⟩
    exact ⟨_, ha.bankInfo⟩
  · rintro ⟨info, hinfo⟩
    exact ⟨⟨row.id, kind, currency, number, row.companyId, row.companyName, info, row.archived,
      row.created.toTimestamp, row.modified.toTimestamp⟩,
      rfl, hkind, hcurrency, hnumber, rfl, rfl, hinfo, rfl, rfl, rfl⟩

end AccountRow

/-! ## Filters -/

theorem AccountProperty.coerce_currency_eq_ok_iff {s : String} {d : Datum} :
    coerce .currency s = .ok d ↔ (∃ c, CurrencyCode.read s = .ok c) ∧ d = .text s := by
  simp only [coerce, mapError_eq_ok_iff, map_eq_ok_iff, CurrencyCode.read_eq_ok_iff]
  constructor
  · rintro ⟨c, rfl, rfl⟩
    exact ⟨⟨c, rfl⟩, rfl⟩
  · rintro ⟨⟨c, rfl⟩, rfl⟩
    exact ⟨c, rfl, rfl⟩

/-- What a filter compares currencies with is what a currency is read from. -/
theorem Filter.currency_of_mem_values {v : Json.Value} {f : Filter AccountProperty}
    (h : Filter.ofValue v = .ok f) {c : Criterion AccountProperty} (hc : c ∈ f.leaves)
    (hproperty : c.property = .currency) {d : Datum} (hd : d ∈ c.operand.values) :
    ∃ s, d = .text s ∧ ∃ code, CurrencyCode.read s = .ok code := by
  obtain ⟨ms, hms⟩ := isCriterion_of_mem_leaves h hc
  obtain ⟨s, hs⟩ := hms.operand.exists_coerce d hd
  rw [hproperty] at hs
  obtain ⟨hcode, rfl⟩ := AccountProperty.coerce_currency_eq_ok_iff.mp hs
  exact ⟨s, rfl, hcode⟩

/-! ## Agreement -/

/-- The columns can hold the texts that types and numbers are read from, and those of ASCII that
currencies are read from. So the accounts of a loaded store fit the columns unless a currency has
digits beyond ASCII, a row that fits is an account if its bank details can be read, and a currency
that a filter compares with is one that the column can hold unless it has such digits. -/
theorem columns_hold_what_is_read (s : String) :
    (kindColumn.Admits s ↔ ∃ t, AccountType.read s = .ok t) ∧
    ('\x00' ∉ s.toList → (numberColumn.Admits s ↔ ∃ n, AccountNumber.read s = .ok n)) ∧
    (currencyColumn.Admits s ↔ (∃ c, CurrencyCode.read s = .ok c) ∧ Text.IsAscii s) ∧
    (∀ (store loaded : MemoryStore) (path : String) (file : MemoryStore.FileText) (n : Nat),
      store.load path file = .ok (loaded, n) →
        ∀ a ∈ loaded.rows, '\x00' ∉ a.number.text.toList →
          ((AccountRow.ofAccount a).Fits ↔ Text.IsAscii a.currency.text)) ∧
    (∀ row : AccountRow, row.Fits → ((∃ a, row.toAccount = .ok a) ↔
      ∃ info, AccountRow.readBankInfo row.bankInfo = .ok info)) ∧
    ∀ (v : Json.Value) (f : Filter AccountProperty), Filter.ofValue v = .ok f →
      ∀ c ∈ f.leaves, c.property = .currency → ∀ d ∈ c.operand.values,
        ∃ text, d = .text text ∧ (currencyColumn.Admits text ↔ Text.IsAscii text) := by
  refine ⟨admits_kindColumn_iff, admits_numberColumn_iff, admits_currencyColumn_iff,
    fun store loaded path file n _ a _ => AccountRow.fits_ofAccount_iff,
    fun row => AccountRow.Fits.exists_toAccount_iff, fun v f h c hc hproperty d hd => ?_⟩
  obtain ⟨text, rfl, hcode⟩ := Filter.currency_of_mem_values h hc hproperty hd
  exact ⟨text, rfl, admits_currencyColumn_iff.trans (and_iff_right hcode)⟩

/-- A filter for two currencies. -/
def euroAndDollar : Json.Value :=
  .object [("property", .string "currency"), ("operator", .string "in"),
    ("value", .array [.string "978", .string "840"])]

theorem common_digits_fit :
    numberColumn.Admits "DE893704" ∧
    (∃ text t, MemoryStore.empty.load "accounts.json" (.ok text) = .ok (t, 1) ∧
      ∀ a ∈ t.rows, (AccountRow.ofAccount a).Fits) ∧
    (∃ a, (AccountRow.ofAccount default).toAccount = .ok a) ∧
    ∃ f : Filter AccountProperty, Filter.ofValue euroAndDollar = .ok f ∧
      ∀ c ∈ f.leaves, ∀ d ∈ c.operand.values, ∃ s, d = .text s ∧ currencyColumn.Admits s := by
  obtain ⟨-, hnumber, -, hload, hrow, hfilter⟩ := columns_hold_what_is_read "DE893704"
  have hplain : '\x00' ∉ (default : Account).number.text.toList := by decide
  have hascii : Text.IsAscii (default : Account).currency.text := by decide
  obtain ⟨v, hv⟩ : ∃ v, (Shape.list Account.shape).write [default] = .ok v := ⟨_, rfl⟩
  have hloaded := MemoryStore.load_print hv .empty "accounts.json"
  have hfits : (AccountRow.ofAccount default).Fits :=
    (hload _ _ _ _ _ hloaded default (List.mem_singleton_self _) hplain).mpr hascii
  have accepted : (Filter.ofValue euroAndDollar : Except QueryError
      (Filter AccountProperty)).toOption.any (fun f => decide (∀ c ∈ f.leaves,
        c.property = .currency ∧ ∀ d ∈ c.operand.values, d = .text "978" ∨ d = .text "840")) =
      true := by
    decide +kernel
  obtain ⟨f, hf, hvalues⟩ := exists_ok_of_any accepted
  rw [decide_eq_true_iff] at hvalues
  refine ⟨(hnumber (by decide)).mpr ⟨_, AccountNumber.read_text ⟨"DE893704", by decide⟩⟩,
    ⟨_, _, hloaded, ?_⟩, (hrow _ hfits).mpr ⟨_, rfl⟩, f, hf, fun c hc d hd => ?_⟩
  · intro a ha
    cases List.mem_singleton.mp ha
    exact hfits
  · obtain ⟨hproperty, hcommon⟩ := hvalues c hc
    obtain ⟨s, rfl, hadmits⟩ := hfilter _ f hf c hc hproperty d hd
    refine ⟨s, rfl, hadmits.mpr ?_⟩
    rcases hcommon _ hd with h | h <;> cases h <;> decide

/-- Three digits that are not in ASCII. -/
def arabicCurrency : CurrencyCode := ⟨"\u0663\u0664\u0665", by decide⟩

/-- A currency is read and loaded, and filters take it, but its column does not hold it. -/
theorem arabic_currency_does_not_fit :
    CurrencyCode.read "\u0663\u0664\u0665" = .ok arabicCurrency ∧
    AccountProperty.coerce .currency "\u0663\u0664\u0665" = .ok (.text arabicCurrency.text) ∧
    ¬ currencyColumn.Admits "\u0663\u0664\u0665" ∧
    ∃ text t, MemoryStore.empty.load "accounts.json" (.ok text) = .ok (t, 1) ∧
      ∃ a ∈ t.rows, ¬ (AccountRow.ofAccount a).Fits := by
  have hcolumn : ¬ currencyColumn.Admits arabicCurrency.text := fun h =>
    absurd (admits_currencyColumn_iff.mp h).2 (by decide)
  obtain ⟨v, hv⟩ : ∃ v, (Shape.list Account.shape).write
      [{ (default : Account) with currency := arabicCurrency }] = .ok v := ⟨_, rfl⟩
  exact ⟨rfl, rfl, hcolumn, _, _, MemoryStore.load_print hv .empty "accounts.json", _,
    List.mem_singleton_self _, fun h => hcolumn h.currency⟩

end AccountRegistry
