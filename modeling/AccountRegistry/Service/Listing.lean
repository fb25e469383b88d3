import AccountRegistry.Decimal.Plain
import AccountRegistry.Query.Sort
import AccountRegistry.Service.Error
import AccountRegistry.Settings.Basic
import AccountRegistry.Store.Lookup

/-! # Listings

A listing is asked for by a filter, a sort, a page and a size, each of which may be left out. The
faults of all four are reported together.
-/

namespace AccountRegistry

structure Listing where
  filter : Filter AccountProperty
  sort : SortOrder AccountSortKey
  page : PageRequest

/-- The active accounts that pass the filter, in the order of the sort. -/
def Listing.query (l : Listing) : Query := l.sort.apply (l.filter.apply .active)

/-- The parameters of a listing as texts. -/
structure ListingTexts where
  filter : Option String
  sort : Option String
  page : Option String
  size : Option String
  deriving DecidableEq, Repr

namespace ListingTexts

def none : ListingTexts := ⟨.none, .none, .none, .none⟩

/-- Takes in one parameter; the name of one that has been taken in before is a fault. -/
def accept (t : ListingTexts) (name value : String) : Except String ListingTexts :=
  let put (slot : Option String) (filled : ListingTexts) : Except String ListingTexts :=
    if slot.isSome then .error name else .ok filled
  if name = "filter" then put t.filter { t with filter := value }
  else if name = "sort" then put t.sort { t with sort := value }
  else if name = "page" then put t.page { t with page := value }
  else if name = "size" then put t.size { t with size := value }
  else .ok t

def acceptAll (t : ListingTexts) : List (List Char × List Char) → Except String ListingTexts
  | [] => .ok t
  | (name, value) :: rest => do
    (← t.accept (String.ofList name) (String.ofList value)).acceptAll rest

/-- The parameters of a query, or the name of the first that is repeated. -/
def ofQuery (query : List Char) : Except String ListingTexts :=
  none.acceptAll (Text.Percent.formPairs (Text.Utf8.encode query))

end ListingTexts

/-- A positive number of 32 bits between blanks; zero is refused later. -/
def readPositive (param : String) (raw : Option String) (missing : UInt32) :
    Except ParamError UInt32 :=
  match raw with
  | .none => .ok missing
  | some raw =>
    match Decimal.natural64? (Text.trim raw.toList) with
    | some n =>
      if n < UInt32.size then .ok (.ofNat n) else .error ⟨param, .malformed (notPositive raw)⟩
    | .none => .error ⟨param, .malformed (notPositive raw)⟩
where
  notPositive (raw : String) : String := s!"{param} must be a positive integer, got '{raw}'"

/-- The page of a listing, or what is wrong with it. Page and size are looked at together only if
both are numbers. -/
def readPage (pages : PageSettings) (t : ListingTexts) : Except (List ParamError) PageRequest :=
  match readPositive "page" t.page 1, readPositive "size" t.size pages.defaultSize with
  | .ok page, .ok size => (PageRequest.check page size pages.maxSize).mapError fun e => [e]
  | .ok _, .error e => .error [e]
  | .error e, .ok _ => .error [e]
  | .error e, .error e' => .error [e, e']

/-- The faults of a result. -/
def faultsOf {ε α : Type} : Except ε α → List ε
  | .ok _ => []
  | .error e => [e]

namespace Listing

/-- A listing of parameters that may be faulty. -/
def ofTexts (pages : PageSettings) (t : ListingTexts) : Except (List ParamError) Listing :=
  match Filter.read t.filter, SortOrder.read t.sort, readPage pages t with
  | .ok filter, .ok sort, .ok page => .ok ⟨filter, sort, page⟩
  | filter, sort, page =>
    .error (faultsOf (filter : Except ParamError (Filter AccountProperty))
      ++ faultsOf (sort : Except ParamError (SortOrder AccountSortKey)) ++ (faultsOf page).flatten)

/-- The listing that the query of a request asks for. -/
def ofQuery (pages : PageSettings) (query : Option (List Char)) : Except ServiceError Listing :=
  match ListingTexts.ofQuery (query.getD []) with
  | .error name =>
    .error (.ofFault "query" "params"
      s!"Failed to deserialize query string: {duplicateMember name}" "value_error.malformed")
  | .ok t => (ofTexts pages t).mapError .ofParams

end Listing

end AccountRegistry
