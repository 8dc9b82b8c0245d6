import Attest.Json.Describe
import Attest.ValueError
import Attest.Canonical

/-!
# The request interface: answers and request fields

Requests and answers are JSON objects.  An answer is `{"ok": result}` or
`{"error": kind, "message": text}`; `Api.Failure` is the second form.  A
request whose own shape is wrong fails with kind `BadInput`.

In requests, a member whose value is `null` counts as absent, except where
a value of any kind is wanted (`Fields.raw`) and where a `null` is refused as
a value of the wrong kind.
-/

namespace Attest

namespace Api

/-- An answer that is an error: its kind and message. -/
structure Failure where
  kind : String
  message : String

/-- The outcome of a request. -/
abbrev Outcome := Except Failure Json

/-- A malformed request. -/
def badInput (message : String) : Failure := ⟨"BadInput", message⟩

/-- A structure the typed decoding refused. -/
def deserializeFailure (message : String) : Failure := ⟨"Deserialize", message⟩

/-- The kind name of a basic-value error. -/
def ValueError.kind : ValueError → String
  | .invalidIdentifier .. => "CoreError.InvalidIdentifier"
  | .invalidTimestamp .. => "CoreError.InvalidTimestamp"
  | .decode .. => "CoreError.Decode"

/-- A basic-value error as an answer. -/
def Failure.ofValueError (e : ValueError) : Failure := ⟨ValueError.kind e, e.message⟩

/-- A canonical-form error as an answer. -/
def Failure.ofCanonical (e : CanonicalError) : Failure :=
  ⟨"CanonicalizationError.FloatRejected", e.message⟩

/-- The JSON form of an outcome. -/
def Outcome.toJson : Outcome → Json
  | .ok j => Json.obj [("ok", j)]
  | .error f => Json.obj [("error", .str f.kind), ("message", .str f.message)]

/-- The fields of a request. -/
abbrev Fields := Json.Members

/-- A field that is present and not `null`. -/
def Fields.get? (req : Fields) (name : String) : Option Json :=
  Json.present? (Json.Members.get? req name)

/-- A required field. -/
def Fields.require (req : Fields) (name : String) : Except Failure Json :=
  match req.get? name with
  | some v => .ok v
  | none => .error (badInput ("missing field " ++ Text.quoted name))

/-- A field that must be present, `null` included. -/
def Fields.raw (req : Fields) (name : String) : Except Failure Json :=
  match Json.Members.get? req name with
  | some v => .ok v
  | none => .error (badInput ("missing field " ++ Text.quoted name))

/-- A required string field. -/
def Fields.string (req : Fields) (name : String) : Except Failure String := do
  match ← req.require name with
  | .str s => .ok s
  | _ => .error (badInput ("field " ++ Text.quoted name ++ " must be a string"))

/-- An optional string field. -/
def Fields.string? (req : Fields) (name : String) : Except Failure (Option String) :=
  match req.get? name with
  | none => .ok none
  | some (.str s) => .ok (some s)
  | some _ => .error (badInput ("field " ++ Text.quoted name ++ " must be a string"))

/-- A flag: `true` turns it on, anything else leaves it off. -/
def Fields.flag (req : Fields) (name : String) : Bool :=
  req.get? name == some (.bool true)

/-- Lift a basic-value result. -/
def liftValue {α : Type} (r : Except ValueError α) : Except Failure α :=
  r.mapError Failure.ofValueError

/-- A JSON array of strings. -/
def strings (xs : List String) : Json := .arr (xs.map .str)

end Api

end Attest
