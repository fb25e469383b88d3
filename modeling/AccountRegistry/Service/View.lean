import AccountRegistry.Account
import AccountRegistry.Query.Page
import AccountRegistry.Shape.Write

/-! # What is shown of accounts

The type of an account decides whether its company and its bank details are shown. The account
number never is.
-/

namespace AccountRegistry

structure AccountView where
  id : Uuid
  kind : AccountType
  currency : CurrencyCode
  created : Timestamp
  modified : Timestamp
  company : Option (Uuid × String)
  /-- Bank details that are shown may still be missing. -/
  bankInfo : Option (Option BankInfo)
  deriving DecidableEq

def Account.view (a : Account) : AccountView where
  id := a.id
  kind := a.kind
  currency := a.currency
  created := a.created
  modified := a.modified
  company := if a.kind.showsCompany then some (a.companyId, a.companyName) else none
  bankInfo := if a.kind.showsBankInfo then some a.bankInfo else none

namespace AccountView

/-- Bank details as far as they are shown, and null where there are none. -/
def writeBankInfo : Option (Option BankInfo) → Except String (List (String × Json.Value))
  | none => .ok []
  | some info => do return [("additional_info", ← (Shape.option BankInfo.shape).write info)]

def write (v : AccountView) : Except String Json.Value := do
  let created ← Timestamp.shape.write v.created
  let modified ← Timestamp.shape.write v.modified
  let company : List (String × Json.Value) := match v.company with
    | some (id, name) => [("company_id", .string id.text), ("company_name", .string name)]
    | none => []
  return .object ([("id", .string v.id.text), ("type", .string v.kind.name),
    ("currency", .string v.currency.text), ("created", created), ("modified", modified)]
    ++ company ++ (← writeBankInfo v.bankInfo))

def writeAll (vs : List AccountView) : Except String Json.Value := do
  return .array (← vs.mapM write)

def writePage (p : Page AccountView) : Except String Json.Value := do
  return .object [("items", ← writeAll p.items), ("total", .number (.natural p.total.toNat)),
    ("page", .number (.natural p.page.toNat)), ("size", .number (.natural p.size.toNat)),
    ("pages", .number (.natural p.pages.toNat))]

end AccountView

end AccountRegistry
