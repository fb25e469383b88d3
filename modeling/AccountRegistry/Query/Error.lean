/-! # Faults of query parameters

What a client did wrong, and in which parameter.
-/

namespace AccountRegistry

inductive QueryError
  | unknownOperator (name : String)
  | unknownProperty (name : String)
  | invalidValue (property reason : String)
  | malformed (reason : String)
  | outOfRange (reason : String)
  deriving DecidableEq, Repr

namespace QueryError

def message : QueryError → String
  | .unknownOperator name => s!"unknown operator '{name}'"
  | .unknownProperty name => s!"unknown property '{name}'"
  | .invalidValue property reason => s!"invalid value for property '{property}': {reason}"
  | .malformed reason => s!"malformed input: {reason}"
  | .outOfRange reason => s!"value out of range: {reason}"

/-- The kind of the fault as clients are told it. -/
def kind : QueryError → String
  | .unknownOperator _ => "value_error.invalid_operator"
  | .unknownProperty _ => "value_error.invalid_property"
  | .invalidValue .. => "value_error.invalid_value"
  | .malformed _ => "value_error.malformed"
  | .outOfRange _ => "value_error.out_of_range"

end QueryError

/-- A fault together with the parameter it came from. -/
structure ParamError where
  param : String
  source : QueryError
  deriving DecidableEq, Repr

def ParamError.message (e : ParamError) : String :=
  s!"invalid '{e.param}' query parameter: {e.source.message}"

/-- Where in the request the fault is. -/
def ParamError.location (e : ParamError) : List String := ["query", e.param]

/-- Blames a parameter for a fault. -/
def forParam {α : Type} (param : String) (r : Except QueryError α) : Except ParamError α :=
  r.mapError fun e => ⟨param, e⟩

end AccountRegistry
