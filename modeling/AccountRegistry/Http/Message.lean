import AccountRegistry.Http.Header
import AccountRegistry.Http.Uri
import AccountRegistry.Json.Printer

/-! # Requests and responses -/

namespace AccountRegistry.Http

structure Request where
  method : String
  uri : Uri
  headers : Headers

inductive RequestFault
  | method
  | uri (f : UriFault)
  | headerName
  | headerValue
  deriving DecidableEq, Repr

def RequestFault.message : RequestFault → String
  | .method => "invalid HTTP method"
  | .uri f => f.message
  | .headerName => "invalid HTTP header name"
  | .headerValue => "failed to parse header value"

/-- A header field with its name in lower case. -/
def readField (field : String × String) : Except RequestFault (String × String) :=
  if !isToken field.1 then .error .headerName
  else if !isValue field.2 then .error .headerValue
  else .ok (field.1.map Char.toLower, field.2)

/-- A request made of its parts. -/
def Request.read (method uri : String) (fields : List (String × String)) :
    Except RequestFault Request := do
  if !isToken method then throw .method
  let uri ← (Uri.read uri).mapError .uri
  return ⟨method, uri, ← fields.mapM readField⟩

inductive Body
  | empty
  | text (s : String)
  | json (v : Json.Value)
  /-- A text that depends on how the service has been used. -/
  | measurements

/-- The bytes of a body; `none` if they are not known beforehand. -/
def Body.size? : Body → Option Nat
  | .empty => some 0
  | .text s => some s.utf8ByteSize
  | .json v => some v.print.utf8ByteSize
  | .measurements => none

structure Response where
  status : Nat
  headers : Headers
  body : Body

namespace Response

/-- A response with nothing but its status. -/
def ofStatus (status : Nat) : Response := ⟨status, [], .empty⟩

def ofText (status : Nat) (s : String) : Response :=
  ⟨status, [("content-type", "text/plain; charset=utf-8")], .text s⟩

def ofJson (status : Nat) (v : Json.Value) : Response :=
  ⟨status, [("content-type", "application/json")], .json v⟩

/-- A response with further fields. -/
def adding (r : Response) (fields : Headers) : Response := { r with headers := r.headers ++ fields }

end Response

end AccountRegistry.Http
