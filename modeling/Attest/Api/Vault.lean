import Attest.Api.Issuance
import Attest.Credential.Vault

/-!
# Vault sessions

A `vault` request builds a vault from its configuration and runs a list of
steps against it.  Rotations change the vault for the steps after them, and
every issuance draws a fresh credential identifier, so a `Session` carries
the vault, the source of random bytes and the events emitted so far from
step to step.

An issued credential is shown as a *view*: its claims with the times that
depend on the clock written relative to the issue time, a drawn identifier
as a marker, and checks of its token in place of the token itself.
-/

namespace Attest

namespace Api

/-- The URNs of the credential identifiers a value names under `jti`,
anywhere inside it. -/
def namedIds : Json → List String
  | .obj ms => namedIdsMembers ms
  | .arr xs => namedIdsItems xs
  | _ => []
where
  /-- Identifiers inside items. -/
  namedIdsItems : List Json → List String
    | [] => []
    | x :: xs => namedIds x ++ namedIdsItems xs
  /-- Identifiers in members and inside their values. -/
  namedIdsMembers : List (String × Json) → List String
    | [] => []
    | (k, v) :: rest =>
      let here := match k, v with
        | "jti", .str s =>
          match CredentialId.parse s with
          | .ok c => [c.urn]
          | .error _ => []
        | _, _ => []
      here ++ namedIds v ++ namedIdsMembers rest

/-- A credential identifier as shown: as it is when the request named it,
otherwise the marker of a drawn identifier. -/
def shownId (named : List String) (urn : String) : String :=
  if named.contains urn then urn else "<generated>"

/-- An event with a drawn `jti` shown as a marker. -/
def LogEvent.maskIds (named : List String) (e : LogEvent) : LogEvent :=
  e.mapField "jti" fun v =>
    match v with
    | .shown s => .shown (shownId named s)
    | .quoted s => .quoted (shownId named s)
    | other => other

/-- The state carried from step to step. -/
structure Session where
  vault : Vault
  now : Timestamp
  env : List (String × String)
  entropy : Entropy
  named : List String
  events : List LogEvent

namespace Session

/-- The session with more events. -/
def emit (s : Session) (es : List LogEvent) : Session := { s with events := s.events ++ es }

/-- A claim of an issued payload as shown in a view. -/
def shownClaim (s : Session) (iat : Int) (name : String) (v : Json) : Json :=
  match name, v with
  | "iat", _ => .str "<iat>"
  | "nbf", _ => if v.int? == some iat then .str "<iat>" else .str "<nbf!=iat>"
  | "exp", _ =>
    match v.int? with
    | some e => if e == Timestamp.latestSeconds then v else .str ("<iat+" ++ toString (e - iat) ++ ">")
    | none => v
  | "jti", .str urn => .str (shownId s.named urn)
  | _, _ => v

/-- The view of an issued credential. -/
def view (s : Session) (c : Credential) : List (String × Json) :=
  let payload := c.claims.payload
  let iat := c.claims.issuedAt.seconds
  let shown := match payload with
    | .obj ms => Json.obj (ms.map fun (k, v) => (k, s.shownClaim iat k v))
    | other => other
  let segments := c.token.splitOn "."
  let segment (i : Nat) : String := segments.getD i ""
  let header := match Base64Url.decode (segment 0) with
    | some bytes => Json.str ((String.fromUTF8? (ByteArray.mk bytes.toArray)).getD "")
    | none => .null
  let text := Json.canonicalText payload
  let resigned := match s.vault.keys.current? s.vault.issuer with
    | some k => Jws.encodeCompact k text == c.token
    | none => false
  [("kid", .str c.kid.val), ("claims", shown), ("header", header),
   ("segments", Json.ofNat segments.length),
   ("payload_matches", .bool (segment 1 == Base64Url.encode text.toUTF8.toList)),
   ("resign_matches", .bool resigned),
   ("signature_len", Json.ofNat ((Base64Url.decode (segment 2)).map List.length |>.getD 0)),
   ("iat_is_now", .bool ((iat - s.now.seconds).natAbs ≤ 300))]

/-- The answer to a batch. -/
def batchJson (s : Session) (r : BatchReport) : Json :=
  Json.object
    [("total", Json.ofNat r.total), ("is_complete", .bool r.isComplete),
     ("issued", .arr (r.issued.map fun (i, c) => Json.object (s.view c ++ [("index", Json.ofNat i)]))),
     ("failures", .arr (r.failures.map fun f => Json.object
       [("index", Json.ofNat f.index), ("record_id", .str f.recordId),
        ("credential_type", .str f.credentialType), ("kind", .str f.error.shortName),
        ("error", .str ("IssuanceError." ++ f.error.variant)), ("message", .str f.error.message)]))]

/-- Run a batch and answer with its report. -/
def batch (s : Session) (requests : List IssuanceRequest) (concurrent : Bool) :
    Outcome × Session :=
  let (run, e) := s.vault.issueBatch requests (fun _ => s.now) s.entropy concurrent
  let s := { s.emit run.events with entropy := e }
  (.ok (s.batchJson run.report), s)

/-- The requests of an `issue_pairs` step: each pair a type and a record. -/
def pairRequests : List Json → Except Failure (List IssuanceRequest)
  | [] => .ok []
  | pair :: rest => do
    let items : List Json := pair.items?.getD []
    let credentialType ← match items.head? with
      | some (.str t) => .ok t
      | _ => .error (badInput "pair[0] must be a string")
    let record ← match (items.drop 1).head? with
      | some (.obj ms) => .ok (SubjectRecord.ofMembers ms)
      | _ => .error (badInput "pair[1] must be an object")
    let more ← pairRequests rest
    .ok (⟨credentialType, record⟩ :: more)

/-- An optional issuer filter. -/
def issuerFilter (step : Fields) : Except Failure (Option IssuerId) := do
  match ← step.string? "issuer" with
  | some i => (liftValue (IssuerId.ofString i)).map some
  | none => .ok none

/-- Run one step. -/
def step (s : Session) (step : Fields) : Outcome × Session :=
  let v := s.vault
  let unchanged (o : Outcome) : Outcome × Session := (o, s)
  match step.get? "op" with
  | none => unchanged (.error (badInput "missing field \"op\""))
  | some (.str "info") =>
    unchanged (.ok (Json.object [("issuer", .str v.issuer.val), ("issuers", strings v.keys.issuers),
      ("key_count", Json.ofNat v.keys.size), ("type_names", strings v.catalogue.typeNames)]))
  | some (.str "issue") =>
    match (do
        let t ← step.string "type"
        let record ← objectField step "record"
        .ok (t, record) : Except Failure (String × Fields)) with
    | .error f => unchanged (.error f)
    | .ok (t, record) =>
      let (bytes, e) := s.entropy.take 16
      let s := { s with entropy := e }
      match v.issue t (SubjectRecord.ofMembers record) s.now (CredentialId.ofRandomBytes bytes) with
      | .ok (c, event) =>
        let s := s.emit [event]
        (.ok (Json.object (s.view c)), s)
      | .error err => (.error (Failure.ofIssuance err), s)
  | some (.str "issue_batch") =>
    match (do
        let requests ← step.raw "requests"
        decodeJson (fun p d => Decode.list p IssuanceRequest.decode d) requests :
          Except Failure (List IssuanceRequest)) with
    | .error f => unchanged (.error f)
    | .ok requests => s.batch requests (step.flag "parallel")
  | some (.str "issue_pairs") =>
    match (do
        let pairs ← match step.get? "pairs" with
          | some (.arr xs) => .ok xs
          | _ => .error (badInput "pairs must be an array")
        pairRequests pairs : Except Failure (List IssuanceRequest)) with
    | .error f => unchanged (.error f)
    | .ok requests => s.batch requests (step.flag "parallel")
  | some (.str "rotate") =>
    match (do
        let config ← decodeJson KeyConfig.decode (← step.raw "key")
        let key ← (config.loadWith fun name => s.env.lookup name).mapError Failure.ofConfig
        let (retired, vault, event) ← (v.rotate key).mapError Failure.ofKey
        .ok (retired, key.kid, vault, event) : Except Failure (KeyId × KeyId × Vault × LogEvent)) with
    | .error f => unchanged (.error f)
    | .ok (retired, active, vault, event) =>
      let s := { s.emit [event] with vault := vault }
      (.ok (Json.object [("retired_kid", .str retired.val), ("active_kid", .str active.val)]), s)
  | some (.str "jwks") =>
    unchanged (do
      let issuer ← issuerFilter step
      .ok (v.jwks issuer).toJson)
  | some (.str "current_kid") =>
    unchanged (do
      let issuer ← liftValue (IssuerId.ofString (← step.string "issuer"))
      .ok (match v.keys.current? issuer with
        | some k => .str k.kid.val
        | none => .null))
  | some (.str "resolve") =>
    unchanged (do
      let t ← step.string "type"
      .ok (match v.catalogue.resolve t with
        | some tpl => tpl.toJson
        | none => .null))
  | some (.str "store") =>
    unchanged (.ok (Json.object [("len", Json.ofNat v.keys.size), ("is_empty", .bool (v.keys.size == 0)),
      ("issuers", strings v.keys.issuers), ("debug", .str v.keys.debugText)]))
  | some (.str "find_jwk") =>
    unchanged (do
      let issuer ← issuerFilter step
      let kid ← step.string "kid"
      .ok (match (v.jwks issuer).find? kid with
        | some k => k.toJson
        | none => .null))
  | some (.str other) => unchanged (.error (badInput ("unknown vault op " ++ Text.quoted other)))
  | some _ => unchanged (.error (badInput "field \"op\" must be a string"))

/-- Run steps in order, each seeing the session the one before left. -/
def run (s : Session) : List Json → List Json × Session
  | [] => ([], s)
  | st :: rest =>
    let fields := match st with
      | .obj ms => ms
      | _ => []
    let (o, s) := s.step fields
    let (answers, s) := run s rest
    (Outcome.toJson o :: answers, s)

end Session

/-- The vault configuration of a request: a JSON value under `config` or a
YAML text under `config_yaml`, exactly one of them present. -/
def vaultConfigOf (req : Fields) : Except Failure VaultConfig :=
  match Json.Members.get? req "config", Json.Members.get? req "config_yaml" with
  | some v, none => decodeJson VaultConfig.decode v
  | none, some (.str text) => (VaultConfig.ofYaml text).mapError Failure.ofConfig
  | _, _ => .error (badInput "exactly one of config (object) or config_yaml (string) is required")

/-- `vault`: build a vault and run the steps of a request; the events emitted
come beside the answer. -/
def vaultRequest (now : Timestamp) (entropy : Entropy) (req : Fields) :
    Outcome × List LogEvent :=
  let opened := do
    let env ← processEnvironment req
    let config ← vaultConfigOf req
    let (vault, events) ← (Vault.ofConfig config fun name => env.lookup name).mapError
      Failure.ofConfig
    .ok (vault, env, events)
  match opened with
  | .error f => (.error f, [])
  | .ok (vault, env, events) =>
    match Json.Members.get? req "ops" with
    | some (.arr steps) =>
      let (answers, s) := Session.run ⟨vault, now, env, entropy, namedIds (.obj req), events⟩ steps
      (.ok (Json.object [("steps", .arr answers)]), s.events)
    | none => (.ok (Json.object [("steps", .arr [])]), events)
    | some _ => (.error (badInput "ops must be an array"), events)

end Api

end Attest
