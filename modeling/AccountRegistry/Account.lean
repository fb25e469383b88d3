import AccountRegistry.Shape.Basic
import AccountRegistry.Text.DecimalDigit
import AccountRegistry.Time.Reading
import AccountRegistry.Uuid

/-! # Accounts

A bank account with the name of the company that owns it. Type, currency and number are checked when
they are read, so that every account holds valid ones.
-/

namespace AccountRegistry

/-- Why a text is not a value of an account. -/
inductive FieldError
  | accountType (text : String)
  | currency (text : String)
  | number (text : String)
  | timestamp (text : String) (reason : Timestamp.DateError)
  /-- No instant lies so many nanoseconds from the start of 1970. -/
  | instant (nanos : Int)
  deriving DecidableEq, Repr

/-- The fewest and the most characters of an account number. -/
def AccountNumber.minLength : Nat := 8

def AccountNumber.maxLength : Nat := 34

def FieldError.message : FieldError → String
  | .accountType text => s!"Invalid account type: {text}"
  | .currency text => s!"Invalid currency numeric code: {text}"
  | .number text =>
    s!"Invalid bank account number: '{text}' must be between {AccountNumber.minLength} and " ++
      s!"{AccountNumber.maxLength} characters"
  | .timestamp text reason => s!"Invalid datetime: '{text}': {reason.message}"
  | .instant nanos => s!"Invalid datetime: {nanos}: timestamp was not in range"

/-- The kind of an account, which decides what is shown of it. -/
inductive AccountType | type1 | type2 | type3 | type4
  deriving DecidableEq, Repr, Inhabited

namespace AccountType

def all : List AccountType := [.type1, .type2, .type3, .type4]

def name : AccountType → String
  | .type1 => "account-type-1"
  | .type2 => "account-type-2"
  | .type3 => "account-type-3"
  | .type4 => "account-type-4"

def showsCompany (t : AccountType) : Bool := t != .type2

def showsBankInfo (t : AccountType) : Bool := t == .type1

def read (s : String) : Except FieldError AccountType :=
  match all.find? fun t => t.name == s with
  | some t => .ok t
  | none => .error (.accountType s)

end AccountType

/-- A numeric currency code: three decimal digits of any script. -/
structure CurrencyCode where
  text : String
  valid : text.length = 3 ∧ text.toList.all Text.isDecimalDigit = true
  deriving DecidableEq

instance : Inhabited CurrencyCode := ⟨⟨"000", by decide⟩⟩

def CurrencyCode.read (s : String) : Except FieldError CurrencyCode :=
  if h : s.length = 3 ∧ s.toList.all Text.isDecimalDigit = true then .ok ⟨s, h⟩
  else .error (.currency s)

/-- An account number of 8 to 34 characters. -/
structure AccountNumber where
  text : String
  valid : AccountNumber.minLength ≤ text.length ∧ text.length ≤ AccountNumber.maxLength
  deriving DecidableEq

instance : Inhabited AccountNumber := ⟨⟨"00000000", by decide⟩⟩

def AccountNumber.read (s : String) : Except FieldError AccountNumber :=
  if h : AccountNumber.minLength ≤ s.length ∧ s.length ≤ AccountNumber.maxLength then .ok ⟨s, h⟩
  else .error (.number s)

/-- The timestamp that a text of an account stands for. -/
def Timestamp.ofText (s : String) : Except FieldError Timestamp :=
  match Timestamp.read s with
  | .ok t => .ok t
  | .error reason => .error (.timestamp s reason)

def Timestamp.ofNanos (nanos : Int) : Except FieldError Timestamp :=
  match Timestamp.ofNanos? nanos with
  | some t => .ok t
  | none => .error (.instant nanos)

/-- Bank details of an account. -/
structure BankInfo where
  bankName : String
  beneficiaryName : Option String
  beneficiaryAddress : Option String
  deriving DecidableEq

structure Company where
  id : Uuid
  name : String
  created : Timestamp
  modified : Timestamp
  deriving DecidableEq

structure Account where
  id : Uuid
  kind : AccountType
  currency : CurrencyCode
  number : AccountNumber
  companyId : Uuid
  companyName : String
  bankInfo : Option BankInfo
  archived : Bool
  created : Timestamp
  modified : Timestamp
  deriving DecidableEq, Inhabited

/-! ## Shapes -/

/-- The same reading with its errors as texts. -/
def withMessage {ε α : Type} (message : ε → String) (r : Except ε α) : Except String α :=
  r.mapError message

def Uuid.shape : Shape Uuid :=
  .string "a formatted UUID string"
    (fun s =>
      withMessage (fun e : Uuid.ReadError => "UUID parsing failed: " ++ e.message) (Uuid.read s))
    (fun u => .ok u.text)

def AccountType.shape : Shape AccountType := .choice AccountType.all AccountType.name

def CurrencyCode.shape : Shape CurrencyCode :=
  .refine .text (fun s => withMessage FieldError.message (CurrencyCode.read s))
    (fun c => .ok c.text)

def AccountNumber.shape : Shape AccountNumber :=
  .refine .text (fun s => withMessage FieldError.message (AccountNumber.read s))
    (fun n => .ok n.text)

def Timestamp.shape : Shape Timestamp :=
  .refine .text (fun s => withMessage FieldError.message (Timestamp.ofText s))
    (fun t => withMessage Timestamp.TextError.message t.text)

def BankInfo.shape : Shape BankInfo :=
  Shape.mapTo
    (.record "BankAccountInfo" <|
      .required "bank_name" .text <|
      .omitted "beneficiary_name" .text <|
      .omitted "beneficiary_address" .text .nil)
    (fun (bank, name, address, ()) => ⟨bank, name, address⟩)
    (fun b => (b.bankName, b.beneficiaryName, b.beneficiaryAddress, ()))

def Company.shape : Shape Company :=
  Shape.mapTo
    (.record "Company" <|
      .required "id" Uuid.shape <|
      .required "name" .text <|
      .required "created" Timestamp.shape <|
      .required "modified" Timestamp.shape .nil)
    (fun (id, name, created, modified, ()) => ⟨id, name, created, modified⟩)
    (fun c => (c.id, c.name, c.created, c.modified, ()))

def Account.shape : Shape Account :=
  Shape.mapTo
    (.record "Account" <|
      .required "id" Uuid.shape <|
      .required "type" AccountType.shape <|
      .required "currency" CurrencyCode.shape <|
      .required "account" AccountNumber.shape <|
      .required "company_id" Uuid.shape <|
      .required "company_name" .text <|
      .default "additional_info" (.option BankInfo.shape) none <|
      .default "archived" .bool false <|
      .required "created" Timestamp.shape <|
      .required "modified" Timestamp.shape .nil)
    (fun (id, kind, currency, number, companyId, companyName, bankInfo, archived, created, modified,
        ()) =>
      ⟨id, kind, currency, number, companyId, companyName, bankInfo, archived, created, modified⟩)
    (fun a => (a.id, a.kind, a.currency, a.number, a.companyId, a.companyName, a.bankInfo,
      a.archived, a.created, a.modified, ()))

end AccountRegistry
