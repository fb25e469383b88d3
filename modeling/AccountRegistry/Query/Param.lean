import AccountRegistry.Json.Reader
import AccountRegistry.Query.Error
import AccountRegistry.Text.Percent

/-! # Parameters that hold JSON

A parameter is JSON as it stands or, failing that, JSON with its characters percent-encoded.
-/

namespace AccountRegistry

/-- The value of a JSON text, or the wording of its fault. -/
def jsonOf (cs : List Char) : Except String Json.Value :=
  match Json.parseChars cs with
  | .ok v => .ok v.canonical
  | .error f => .error (f.message cs)

def decodeParam (raw : String) : Except QueryError Json.Value :=
  match jsonOf raw.toList with
  | .ok v => .ok v
  | .error reason =>
    match Text.Percent.decode raw.toList with
    | .error e => .error (.malformed s!"invalid percent-encoding: {e.message}")
    | .ok decoded =>
      if decoded = raw.toList then .error (.malformed reason)
      else (jsonOf decoded).mapError .malformed

end AccountRegistry
