import AccountRegistry.Query.Statement

/-! # Failures of a store -/

namespace AccountRegistry

inductive StoreError
  | notFound (entity id : String)
  | pageNotFound (page : UInt32) (pages : UInt64)
  | invalidQuery (e : StatementError)
  | connection (reason : String)
  | internal (reason : String)
  deriving DecidableEq, Repr

namespace StoreError

def message : StoreError → String
  | .notFound entity id => s!"{entity} with id '{id}' does not exist"
  | .pageNotFound page pages => s!"Page {page.toNat} does not exist (total pages: {pages.toNat})"
  | .invalidQuery e => s!"Invalid query: {e.message}"
  | .connection reason => s!"Connection error: {reason}"
  | .internal reason => s!"Internal error: {reason}"

/-- Whether what was asked for is missing, be it an entity or a page. -/
def isNotFound : StoreError → Bool
  | .notFound .. | .pageNotFound .. => true
  | _ => false

def category : StoreError → String
  | .notFound .. | .pageNotFound .. => "not_found"
  | .invalidQuery _ => "query"
  | .connection _ => "infrastructure"
  | .internal _ => "internal"

end StoreError

end AccountRegistry
