import Attest.Calendar.Parse
import Attest.Credential.Error
import Attest.Decode.Record

/-!
# Field types and coercion

Subject records are untyped JSON.  Every declared field is coerced to its
declared type exactly once, so a type error names the field:

| type      | accepts                                   | gives               |
|-----------|-------------------------------------------|---------------------|
| `string`  | string, integer, boolean                  | string              |
| `number`  | integer, string holding an integer        | integer             |
| `boolean` | boolean, `"true"` / `"false"` (any case)  | boolean             |
| `date`    | `YYYY-MM-DD`, RFC 3339 time (any offset)  | `YYYY-MM-DD` in UTC |

Fractional numbers are refused everywhere: canonical claims carry integers
only.
-/

namespace Attest

/-- The type of a template field. -/
inductive FieldType where
  | string
  | number
  | boolean
  | date
  deriving DecidableEq, Repr

namespace FieldType

/-- The lowercase name used in configuration. -/
def name : FieldType → String
  | .string => "string"
  | .number => "number"
  | .boolean => "boolean"
  | .date => "date"

/-- The variant name in debugging output. -/
def debugName : FieldType → String
  | .string => "String"
  | .number => "Number"
  | .boolean => "Boolean"
  | .date => "Date"

/-- Read a field type from a document by its lowercase name. -/
def decode : List Decode.PathStep → Decode.Doc → Decode.Result FieldType :=
  Decode.variant [("string", .string), ("number", .number), ("boolean", .boolean), ("date", .date)]

/-- Decimal digits, at least one. -/
def decimal? (cs : List Char) : Option Nat :=
  if cs.isEmpty || !cs.all Char.isDigit then none
  else some (cs.foldl (fun acc c => acc * 10 + (c.toNat - '0'.toNat)) 0)

/-- A 64-bit integer written in decimal with an optional sign: signed first,
then unsigned. -/
def integerOfText? (s : String) : Option Int :=
  let signed : Option Int :=
    match s.toList with
    | '-' :: ds => (decimal? ds).map fun n => -(n : Int)
    | '+' :: ds => (decimal? ds).map fun n => (n : Int)
    | ds => (decimal? ds).map fun n => (n : Int)
  match signed with
  | some i =>
    if Json.intMin ≤ i ∧ i < Int.pow 2 63 then some i
    else if 0 ≤ i ∧ i ≤ Json.intMax then some i
    else none
  | none => none

/-- A calendar date: `%Y-%m-%d` first, then an RFC 3339 time converted to UTC. -/
def dateOfText? (s : String) : Option Calendar.Date :=
  match Calendar.readDate s with
  | .ok d => some d
  | .error _ =>
    match Calendar.readDateTime s with
    | .ok t => some t.utcDate
    | .error _ => none

/-- Whether two texts are equal ignoring ASCII case. -/
def equalsIgnoringCase (a b : String) : Bool :=
  a.length == b.length && (a.toList.zip b.toList).all fun (x, y) => x.toLower == y.toLower

/-- The value coerced to the type, if it can be. -/
def coerce? (t : FieldType) (v : Json) : Option Json :=
  match t, v with
  | .string, .str s => some (.str s)
  | .string, .num (.int i) => some (.str (toString i))
  | .string, .bool b => some (.str (toString b))
  | .number, .num (.int i) => some (.num (.int i))
  | .number, .str s => (integerOfText? (Text.trim s)).map Json.ofInt
  | .boolean, .bool b => some (.bool b)
  | .boolean, .str s =>
    let t := Text.trim s
    if equalsIgnoringCase t "true" then some (.bool true)
    else if equalsIgnoringCase t "false" then some (.bool false)
    else none
  | .date, .str s => (dateOfText? (Text.trim s)).map fun d => .str d.text
  | _, _ => none

/-- Coerce the value of a field, or fail naming the field. -/
def coerce (t : FieldType) (field : String) (v : Json) : Except IssuanceError Json :=
  match t.coerce? v with
  | some r => .ok r
  | none => .error (.typeMismatch field t.name v.compact)

end FieldType

end Attest
