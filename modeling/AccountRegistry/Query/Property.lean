import AccountRegistry.Query.Operator

/-! # Properties

Names that filters and sorts use for the fields of an account. A property stands for one or more
fields, and a filter property also reads the values it is compared with.
-/

namespace AccountRegistry

/-- A non-empty list of fields. -/
structure FieldSet where
  first : Field
  rest : List Field

def FieldSet.toList (s : FieldSet) : List Field := s.first :: s.rest

/-- The property whose name a text is in lower case. -/
def resolveProperty {P : Type} (all : List P) (name : P → String) (s : String) :
    Except QueryError P :=
  let lowered := Text.lower s
  match all.find? fun p => name p == lowered with
  | some p => .ok p
  | none => .error (.unknownProperty s)

class FilterProperty (P : Type) where
  all : List P
  name : P → String
  fields : P → FieldSet
  /-- Reads one text as a value of the property. -/
  coerce : P → String → Except QueryError Datum

def FilterProperty.resolve {P : Type} [FilterProperty P] (s : String) : Except QueryError P :=
  resolveProperty all name s

inductive SortDirection | asc | desc
  deriving DecidableEq, Repr, Inhabited

def SortDirection.name : SortDirection → String
  | .asc => "asc"
  | .desc => "desc"

def SortDirection.read (s : String) : Except QueryError SortDirection :=
  let lowered := Text.lower s
  if lowered = "asc" then .ok .asc
  else if lowered = "desc" then .ok .desc
  else .error (.malformed s!"sort direction must be 'asc' or 'desc', got '{s}'")

class SortProperty (P : Type) where
  all : List P
  name : P → String
  fields : P → FieldSet
  /-- The property and direction of a listing that asks for none. -/
  default : P × SortDirection

def SortProperty.resolve {P : Type} [SortProperty P] (s : String) : Except QueryError P :=
  resolveProperty all name s

/-! ## Properties of accounts -/

inductive AccountProperty | kind | client | clientId | currency | modified
  deriving DecidableEq, Repr, Inhabited

namespace AccountProperty

def all : List AccountProperty := [.kind, .client, .clientId, .currency, .modified]

def name : AccountProperty → String
  | .kind => "type"
  | .client => "client"
  | .clientId => "client_id"
  | .currency => "currency"
  | .modified => "modified"

def field : AccountProperty → Field
  | .kind => .kind
  | .client => .companyName
  | .clientId => .companyId
  | .currency => .currency
  | .modified => .modified

/-- Identifiers of companies become texts in their written form. -/
def coerce (p : AccountProperty) (s : String) : Except QueryError Datum :=
  let refuse (reason : String) : QueryError := .invalidValue p.name reason
  match p with
  | .kind => ((AccountType.read s).map fun t => .text t.name).mapError fun e => refuse e.message
  | .client => .ok (.text s)
  | .clientId => ((Uuid.read s).map fun u => .text u.text).mapError fun e => refuse e.message
  | .currency =>
    ((CurrencyCode.read s).map fun c => .text c.text).mapError fun e => refuse e.message
  | .modified => ((Timestamp.ofText s).map .timestamp).mapError fun e => refuse e.message

instance : FilterProperty AccountProperty where
  all := all
  name := name
  fields p := ⟨p.field, []⟩
  coerce := coerce

end AccountProperty

inductive AccountSortKey | created | modified
  deriving DecidableEq, Repr, Inhabited

namespace AccountSortKey

def all : List AccountSortKey := [.created, .modified]

def name : AccountSortKey → String
  | .created => "created"
  | .modified => "modified"

def field : AccountSortKey → Field
  | .created => .created
  | .modified => .modified

instance : SortProperty AccountSortKey where
  all := all
  name := name
  fields p := ⟨p.field, []⟩
  default := (.modified, .desc)

end AccountSortKey

end AccountRegistry
