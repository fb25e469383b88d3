import AccountRegistry.Shape.Write
import AccountRegistry.Store.Error

/-! # Errors of the service

What a client is told: missing things by a message, faulty requests by one detail for each fault,
and nothing about failures inside.
-/

namespace AccountRegistry

/-- One fault of a request and where it is. -/
structure Problem where
  location : List String
  message : String
  kind : String
  deriving DecidableEq, Repr

def Problem.ofParam (e : ParamError) : Problem := ⟨e.location, e.source.message, e.source.kind⟩

inductive ServiceError
  | notFound (message : String)
  | internal (message : String)
  | unprocessable (problems : List Problem)
  deriving DecidableEq, Repr

namespace ServiceError

def message : ServiceError → String
  | .notFound m => s!"Not found: {m}"
  | .internal m => s!"Internal server error: {m}"
  | .unprocessable ps => s!"Unprocessable entity: {ps.length} validation error(s)"

def status : ServiceError → Nat
  | .notFound _ => 404
  | .internal _ => 500
  | .unprocessable _ => 422

/-- A single fault outside the parameters of a listing. -/
def ofFault (place name message kind : String) : ServiceError :=
  .unprocessable [⟨[place, name], message, kind⟩]

def ofParams (es : List ParamError) : ServiceError := .unprocessable (es.map Problem.ofParam)

/-- Missing things are named; other failures are not described. -/
def ofStore (e : StoreError) : ServiceError :=
  if e.isNotFound then .notFound e.message else .internal "Internal server error"

end ServiceError

/-- The body of an error response: details of faults, or one message. -/
abbrev ErrorBody := List Problem ⊕ String

def ServiceError.body : ServiceError → ErrorBody
  | .unprocessable ps => .inl ps
  | .notFound m => .inr m
  | .internal m => .inr m

def Problem.shape : Shape Problem :=
  Shape.mapTo
    (.record "ErrorDetail" <|
      .required "loc" (.list .text) <|
      .required "msg" .text <|
      .required "type" .text .nil)
    (fun (location, message, kind, ()) => ⟨location, message, kind⟩)
    (fun p => (p.location, p.message, p.kind, ()))

def ErrorBody.shape : Shape ErrorBody :=
  .either "ErrorBody"
    (Shape.mapTo (.record "ErrorBody::Validation" (.required "detail" (.list Problem.shape) .nil))
      Prod.fst fun ps => (ps, ()))
    (Shape.mapTo (.record "ErrorBody::Message" (.required "detail" .text .nil))
      Prod.fst fun m => (m, ()))

end AccountRegistry
