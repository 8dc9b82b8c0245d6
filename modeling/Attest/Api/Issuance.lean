import Attest.Api.Templates
import Attest.Credential.Claims

/-!
# Requests about claims

Building the claims of a record under a template, and the answer's view of
them: a credential identifier that was drawn at random is shown as
`<generated>`, since no two runs agree on it.
-/

namespace Attest

namespace Api

/-- A payload with its `jti` shown as a marker. -/
def maskCredentialId (marker : String) : Json → Json
  | .obj ms => .obj (ms.map fun (k, v) => if k == "jti" then (k, .str marker) else (k, v))
  | other => other

/-- The marker of a drawn credential identifier: `<generated>` when it has
the random-URN form. -/
def generatedMarker (c : CredentialId) : String :=
  if isRandomUrn c then "<generated>" else "<bad-generated " ++ c.urn ++ ">"

/-- The record a request gives, built member by member or from the whole
object as `record_via` says. -/
def recordOf (req : Fields) : Except Failure SubjectRecord := do
  let fields ← match ← req.raw "record" with
    | .obj ms => .ok ms
    | _ => .error (badInput "field \"record\" must be an object")
  match req.get? "record_via" with
  | none => .ok (SubjectRecord.ofMembers fields)
  | some (.str "map") => .ok (SubjectRecord.ofMembers fields)
  | some (.str "with") => .ok (fields.foldl (fun r (k, v) => r.set k v) (SubjectRecord.ofMembers []))
  | some (.str other) => .error (badInput ("unknown record_via " ++ Text.quoted other))
  | some _ => .error (badInput "field \"record_via\" must be a string")

/-- `build_claims`: build the claims of a record, and optionally sign them. -/
def buildClaimsRequest (entropy : Entropy) (req : Fields) : Outcome := do
  let config ← decodeJson TemplateConfig.decode (← req.raw "template")
  let t ← (Template.ofConfig config).mapError Failure.ofConfig
  let record ← recordOf req
  let issuer ← liftValue (IssuerId.ofString (← req.string "issuer"))
  let issuedAt ← liftValue (Timestamp.parse (← req.string "issued_at"))
  let fresh := CredentialId.ofRandomBytes (entropy.take 16).1
  let claims ← (buildClaims t record issuer issuedAt fresh).mapError Failure.ofIssuance
  let generated := (record.get? credentialIdField).isNone
  let payload := claims.payload
  let shown := if generated then maskCredentialId (generatedMarker claims.credentialId) payload
    else payload
  let token ← match Json.Members.get? req "key" with
    | none => .ok []
    | some v => do
      let key ← keyOf v
      if generated then .ok [("token", Json.str "<nondeterministic>")]
      else .ok [("token", Json.str (Jws.encodeCompact key (Json.canonicalText payload)))]
  let inspect :=
    if req.flag "inspect" then
      [("record", Json.object [("fields", strings (record.fields.map (·.1))),
        ("len", Json.ofNat record.fields.length), ("is_empty", .bool record.fields.isEmpty)])]
    else []
  let lookup := match req.get? "lookup" with
    | some (.arr names) => [("lookup", Json.arr (names.map fun n =>
        match n with
        | .str s => (claims.customClaim? s).getD .null
        | _ => .null))]
    | _ => []
  .ok (Json.object ([("payload", shown), ("canonical", .str (Json.canonicalText shown)),
    ("subject", .str claims.subject), ("custom", .obj claims.custom),
    ("expires_at", match claims.expiresAt with
      | some e => .str e.iso
      | none => .null)] ++ token ++ inspect ++ lookup))

end Api

end Attest
