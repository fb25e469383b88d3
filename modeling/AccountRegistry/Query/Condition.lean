import AccountRegistry.Account

/-! # Conditions

Predicates over account rows: comparisons of a field with a value, membership, and their Boolean
combinations.
-/

namespace AccountRegistry

/-- A column of an account row. -/
inductive Field
  | id | kind | currency | number | companyId | companyName | archived | created | modified
  deriving DecidableEq, Repr, Inhabited

def Field.all : List Field :=
  [.id, .kind, .currency, .number, .companyId, .companyName, .archived, .created, .modified]

def Field.name : Field → String
  | .id => "id"
  | .kind => "type"
  | .currency => "currency"
  | .number => "account"
  | .companyId => "company_id"
  | .companyName => "company_name"
  | .archived => "archived"
  | .created => "created"
  | .modified => "modified"

/-- A value in a row or bound to a statement. -/
inductive Datum
  | text (s : String)
  | uuid (u : Uuid)
  | bool (b : Bool)
  | timestamp (t : Timestamp)
  | null
  deriving DecidableEq, Repr, Inhabited

/-- The value of a field of an account. Type and company count as texts. -/
def Account.get (a : Account) : Field → Datum
  | .id => .uuid a.id
  | .kind => .text a.kind.name
  | .currency => .text a.currency.text
  | .number => .text a.number.text
  | .companyId => .text a.companyId.text
  | .companyName => .text a.companyName
  | .archived => .bool a.archived
  | .created => .timestamp a.created
  | .modified => .timestamp a.modified

inductive Comparison
  | eq | ne | gt | lt | ge | le
  /-- Matching of a pattern. -/
  | like
  /-- Matching of a pattern in any letter case. -/
  | ilike
  | isNull | isNotNull
  deriving DecidableEq, Repr, Inhabited

/-- Whether a comparison looks at a value besides the field. -/
def Comparison.takesValue : Comparison → Bool
  | .isNull | .isNotNull => false
  | _ => true

inductive Condition
  | compare (field : Field) (op : Comparison) (value : Datum)
  | oneOf (field : Field) (values : List Datum)
  | any (cs : List Condition)
  | all (cs : List Condition)
  | not (c : Condition)
  | always
  | never
  deriving Repr, Inhabited

namespace Condition

def isNull (field : Field) : Condition := .compare field .isNull .null

def isNotNull (field : Field) : Condition := .compare field .isNotNull .null

/-- Membership; an empty list has no members. -/
def memberOf (field : Field) : List Datum → Condition
  | [] => .never
  | values => .oneOf field values

/-- Some condition holds. -/
def disjunction : List Condition → Condition
  | [] => .never
  | [c] => c
  | cs => .any cs

/-- Every condition holds. -/
def conjunction : List Condition → Condition
  | [] => .always
  | [c] => c
  | cs => .all cs

mutual

/-- The number of nodes of a condition. -/
def size : Condition → Nat
  | .any cs => 1 + sizeAll cs
  | .all cs => 1 + sizeAll cs
  | .not c => 1 + c.size
  | .compare .. => 1
  | .oneOf .. => 1
  | .always => 1
  | .never => 1

def sizeAll : List Condition → Nat
  | [] => 0
  | c :: cs => c.size + sizeAll cs

end

end Condition

end AccountRegistry
