import AccountRegistry.Query.Statement

/-! # Pages

A page request counts pages from one. Pages of results carry the total, from which the number of
pages follows.
-/

namespace AccountRegistry

/-- What happens to a request for a page past the last one. -/
inductive PageOverflow | empty | reject
  deriving DecidableEq, Repr, Inhabited

def PageOverflow.name : PageOverflow → String
  | .empty => "empty"
  | .reject => "reject"

def PageOverflow.shape : Shape PageOverflow := .choice [.empty, .reject] PageOverflow.name

def defaultPageSize : UInt32 := 50

def maxPageSize : UInt32 := 1000

structure PageRequest where
  page : UInt32
  size : UInt32
  page_pos : 1 ≤ page
  size_pos : 1 ≤ size

namespace PageRequest

/-- A request for a page that exists in principle, of a size up to `max`. -/
def check (page size max : UInt32) : Except ParamError PageRequest :=
  if hp : 1 ≤ page then
    if hs : 1 ≤ size ∧ size ≤ max then .ok ⟨page, size, hp, hs.1⟩
    else .error ⟨"size", .outOfRange s!"size must be between 1 and {max.toNat}"⟩
  else .error ⟨"page", .outOfRange "page must be at least 1"⟩

def limit (r : PageRequest) : UInt64 := r.size.toUInt64

def offset (r : PageRequest) : UInt64 := (r.page - 1).toUInt64 * r.size.toUInt64

def window (r : PageRequest) : Window := ⟨some r.limit, r.offset⟩

/-- The number of pages for so many items: the quotient, rounded up. -/
def pagesFor (r : PageRequest) (total : UInt64) : UInt64 :=
  if total % r.limit = 0 then total / r.limit else total / r.limit + 1

/-- Whether a page comes after the last one; the first page is always there. -/
def isPastEnd (r : PageRequest) (total : UInt64) : Bool :=
  max (r.pagesFor total) 1 < r.page.toUInt64

end PageRequest

structure Page (α : Type) where
  items : List α
  total : UInt64
  page : UInt32
  size : UInt32
  pages : UInt64

namespace Page

def ofItems {α : Type} (items : List α) (total : UInt64) (r : PageRequest) : Page α :=
  ⟨items, total, r.page, r.size, r.pagesFor total⟩

def map {α β : Type} (f : α → β) (p : Page α) : Page β :=
  ⟨p.items.map f, p.total, p.page, p.size, p.pages⟩

def shape {α : Type} (s : Shape α) : Shape (Page α) :=
  Shape.mapTo
    (.record "Page" <|
      .required "items" (.list s) <|
      .required "total" .unsigned64 <|
      .required "page" .unsigned32 <|
      .required "size" .unsigned32 <|
      .required "pages" .unsigned64 .nil)
    (fun (items, total, page, size, pages, ()) =>
      ⟨items, .ofNat total, .ofNat page, .ofNat size, .ofNat pages⟩)
    (fun p => (p.items, p.total.toNat, p.page.toNat, p.size.toNat, p.pages.toNat, ()))

end Page

end AccountRegistry
