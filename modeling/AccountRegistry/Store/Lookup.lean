import AccountRegistry.Query.Page
import AccountRegistry.Store.Error

/-! # Reads of accounts

The queries behind all reads. Archived accounts are never read.
-/

namespace AccountRegistry

namespace Query

/-- The accounts that are not archived. -/
def active : Query := everything.restrict (.compare .archived .eq (.bool false))

/-- The active account with an identifier. -/
def byId (id : Uuid) : Query :=
  (active.restrict (.compare .id .eq (.uuid id))).within ⟨some 1, 0⟩

/-- The active account with an account number. -/
def byNumber (number : String) : Query :=
  (active.restrict (.compare .number .eq (.text number))).within ⟨some 1, 0⟩

/-- The active accounts of a company, the most recently modified first. -/
def byCompany (id : Uuid) : Query :=
  (active.restrict (.compare .companyId .eq (.text id.text))).orderBy (.ofField .modified .desc)

end Query

/-- The rows of a window and the number of rows without it. -/
structure PageSlice where
  total : UInt64
  items : List Account

/-- The page that a slice makes, or the refusal of a page past the end. -/
def PageSlice.toPage (s : PageSlice) (r : PageRequest) (overflow : PageOverflow) :
    Except StoreError (Page Account) :=
  if overflow = .reject ∧ r.isPastEnd s.total = true then
    .error (.pageNotFound r.page (r.pagesFor s.total))
  else .ok (.ofItems s.items s.total r)

end AccountRegistry
