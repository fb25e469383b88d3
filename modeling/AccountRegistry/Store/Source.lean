import AccountRegistry.Store.Lookup

/-! # Sources of accounts

Whatever accounts are read from. All reads are made of two: the rows of a query, and a window of
them together with their number.
-/

namespace AccountRegistry

structure AccountSource where
  /-- What kind of store this is. -/
  backendName : String
  fetch : Query → Except StoreError (List Account)
  fetchPage : Query → Window → Except StoreError PageSlice

namespace AccountSource

variable (s : AccountSource)

def findById (id : Uuid) : Except StoreError (Option Account) :=
  (s.fetch (.byId id)).map List.head?

def findByNumber (number : String) : Except StoreError (Option Account) :=
  (s.fetch (.byNumber number)).map List.head?

def listByCompany (id : Uuid) : Except StoreError (List Account) := s.fetch (.byCompany id)

/-- One page of a query. -/
def page (q : Query) (r : PageRequest) (overflow : PageOverflow) :
    Except StoreError (Page Account) := do
  (← s.fetchPage q r.window).toPage r overflow

end AccountSource

end AccountRegistry
