import Attest.Json.Basic

/-!
# Log events

Issuing, rotating and batch runs report what they did as structured events:
a level, the component that speaks, a message and named fields in the order
they are given.  Operations return their events beside their results, so an
event list is an ordinary value that a caller can keep, print or drop.

A field value remembers how it is shown in a text log line: as a quoted
string, as bare text, or as a number or flag.  In JSON all text becomes a
string and numbers and flags stay themselves.
-/

namespace Attest

/-- The severity of an event, least severe first. -/
inductive Level where
  | trace
  | debug
  | info
  | warn
  | error
  deriving DecidableEq, Repr

namespace Level

/-- The upper-case name. -/
def name : Level → String
  | .trace => "TRACE"
  | .debug => "DEBUG"
  | .info => "INFO"
  | .warn => "WARN"
  | .error => "ERROR"

/-- The rank of a level, `trace` lowest. -/
def rank : Level → Nat
  | .trace => 0
  | .debug => 1
  | .info => 2
  | .warn => 3
  | .error => 4

end Level

/-- The component an event comes from. -/
inductive Component where
  | vault
  | keyStore
  | batchCommand
  | command
  deriving DecidableEq, Repr

/-- The name a component reports under. -/
def Component.target : Component → String
  | .vault => "credvault_vc::vault"
  | .keyStore => "credvault_crypto::key_store"
  | .batchCommand => "credvault_cli::issue"
  | .command => "credvault"

/-- The value of an event field. -/
inductive FieldValue where
  /-- A string, quoted in text lines. -/
  | quoted (s : String)
  /-- A displayed value, bare in text lines. -/
  | shown (s : String)
  /-- A count. -/
  | count (n : Nat)
  /-- A flag. -/
  | flag (b : Bool)
  deriving DecidableEq, Repr

/-- The JSON of a field value. -/
def FieldValue.toJson : FieldValue → Json
  | .quoted s => .str s
  | .shown s => .str s
  | .count n => Json.ofNat n
  | .flag b => .bool b

/-- One event. -/
structure LogEvent where
  level : Level
  component : Component
  message : String
  fields : List (String × FieldValue)
  deriving DecidableEq, Repr

namespace LogEvent

/-- The event with every field of a name replaced by `f` of its value. -/
def mapField (name : String) (f : FieldValue → FieldValue) (e : LogEvent) : LogEvent :=
  { e with fields := e.fields.map fun (k, v) => if k == name then (k, f v) else (k, v) }

/-- The fields as a JSON object, the message under `message`. -/
def fieldsJson (e : LogEvent) : Json :=
  Json.object (e.fields.map (fun (k, v) => (k, v.toJson)) ++ [("message", .str e.message)])

/-- The JSON of an event: level, target and fields. -/
def toJson (e : LogEvent) : Json :=
  Json.object [("level", .str e.level.name), ("target", .str e.component.target),
    ("fields", e.fieldsJson)]

end LogEvent

end Attest
