import Attest.Api.Basic
import Attest.Identity
import Attest.Timestamp

/-!
# Requests on the basic values

Hexadecimal decoding, canonical JSON, timestamps and identifiers, each
answered as a JSON object of the facts a caller can check.
-/

namespace Attest

namespace Api

/-- `hex`: decode a hexadecimal string and write it back. -/
def hexRequest (req : Fields) : Outcome := do
  let text ← req.string "hex"
  let bytes ← liftValue ((Hex.decode text).mapError ValueError.decode)
  .ok (Json.object [("bytes", .arr (bytes.map fun b => Json.ofNat b.toNat)),
    ("hex", .str (Hex.encode bytes)), ("prefix", .str (Hex.encodeHead bytes))])

/-- `canonical`: the canonical text of a value and its length in bytes. -/
def canonicalRequest (req : Fields) : Outcome := do
  let v ← req.raw "value"
  let text ← (Json.canonical v).mapError Failure.ofCanonical
  let base := [("canonical", Json.str text), ("len", Json.ofNat text.utf8ByteSize)]
  let extra :=
    if req.flag "extras" then [("is_empty", Json.bool false), ("as_ref_len", Json.ofNat text.utf8ByteSize)]
    else []
  .ok (Json.object (base ++ extra))

/-- The facts of a timestamp. -/
def timestampFacts (t : Timestamp) : List (String × Json) :=
  [("iso", .str t.iso), ("epoch", Json.ofInt t.seconds)]

/-- `timestamp`: read a timestamp, and optionally add seconds to it. -/
def timestampRequest (req : Fields) : Outcome := do
  let s ← req.string "s"
  let plus ← match Json.Members.get? req "plus_secs" with
    | none => .ok none
    | some (.num (.int i)) => if i ≥ 0 then .ok (some i.toNat)
                              else .error (badInput "plus_secs must be a non-negative integer")
    | some _ => .error (badInput "plus_secs must be a non-negative integer")
  let t ← liftValue (Timestamp.parse s)
  let base := timestampFacts t ++ [("display", .str t.iso)]
  match plus with
  | none => .ok (Json.object base)
  | some n =>
    let later := t.plusSeconds n
    .ok (Json.object (base ++
      [("plus", Json.object (timestampFacts later ++ [("after", .bool (Timestamp.lt t later))]))]))

/-- `identifier`: check an issuer id, key id or credential id. -/
def identifierRequest (req : Fields) : Outcome := do
  let kind ← req.string "kind"
  let serde := req.flag "serde"
  let id ← req.string "id"
  let asDecoded (r : Except ValueError String) : Except Failure String :=
    if serde then r.mapError (fun e => deserializeFailure e.message) else liftValue r
  match kind with
  | "issuer" =>
    let s ← asDecoded ((IssuerId.ofString id).map (·.val))
    .ok (if serde then Json.object [("display", .str s), ("serialized", .str s)] else .str s)
  | "key" =>
    let s ← asDecoded ((KeyId.ofString id).map (·.val))
    .ok (if serde then Json.object [("display", .str s), ("serialized", .str s)] else .str s)
  | "credential" =>
    let s ← asDecoded ((CredentialId.parse id).map (·.urn))
    .ok (if serde then Json.object [("display", .str s), ("serialized", .str s), ("urn", .str s)]
         else .str s)
  | other => .error (badInput ("unknown identifier kind " ++ Text.quoted other))

end Api

end Attest
