import Attest.Credential.KeyConfig
import Attest.Credential.Claims
import Attest.Key.Store
import Attest.Key.Jws
import Attest.Log
import Attest.Entropy
import Attest.Yaml.Document

/-!
# Vaults

A vault is an issuing authority: its own issuer identity, a key store and a
catalogue of templates.  Issuing a credential of a type

1. finds the template (`unknownCredentialType`),
2. builds the claims of the record under it,
3. takes the vault issuer's active key (`noSigningKey`),
4. signs the canonical payload as a compact JWS.

A batch issues every request and never stops at a failure: it reports the
issued credentials and the failures, both in request order.  Operations
return the log events they emit beside their results.
-/

namespace Attest

/-- The configuration of a vault: its issuer, its keys and its templates. -/
structure VaultConfig where
  issuer : IssuerId
  keys : List KeyConfig
  templates : List TemplateConfig

namespace VaultConfig

/-- Read a vault configuration; unknown members are refused and `templates`
defaults to none. -/
def decode (path : List Decode.PathStep) (node : Decode.Doc) : Decode.Result VaultConfig := do
  let keys := fun p d => Decode.list p KeyConfig.decode d
  let templates := fun p d => Decode.list p TemplateConfig.decode d
  let found ← Decode.record "VaultConfig"
    [.required "issuer" IssuerId.decode, .required "keys" keys,
     .withDefault "templates" templates] false path node
  let issuer ← found.need "issuer" IssuerId.decode
  let keyConfigs ← found.need "keys" keys
  let templateConfigs ← found.getD "templates" templates []
  .ok ⟨issuer, keyConfigs, templateConfigs⟩

/-- Read a vault configuration from YAML text (JSON text is YAML too). -/
def ofYaml (text : String) : Except ConfigError VaultConfig :=
  ((Yaml.Document.read text).decode decode).mapError fun e => .parse e.text

end VaultConfig

/-- A signed credential: its claims, its token and the id of the signing key. -/
structure Credential where
  claims : ClaimSet
  token : String
  kid : KeyId

/-- One request of a batch: a credential type and the subject's record. -/
structure IssuanceRequest where
  credentialType : String
  subject : SubjectRecord

/-- Read the fields of a subject: a map of text keys to any values. -/
def SubjectRecord.decode (path : List Decode.PathStep) (node : Decode.Doc) :
    Decode.Result SubjectRecord :=
  (Decode.stringMap path Decode.anyValue node).map SubjectRecord.ofMembers

/-- Read an issuance request; unknown members are refused. -/
def IssuanceRequest.decode (path : List Decode.PathStep) (node : Decode.Doc) :
    Decode.Result IssuanceRequest := do
  let found ← Decode.record "IssuanceRequest"
    [.required "credential_type" Decode.string, .required "subject" SubjectRecord.decode]
    false path node
  let credentialType ← found.need "credential_type" Decode.string
  let subject ← found.need "subject" SubjectRecord.decode
  .ok ⟨credentialType, subject⟩

/-- A failed request of a batch. -/
structure BatchFailure where
  index : Nat
  recordId : String
  credentialType : String
  error : IssuanceError

/-- The outcome of a batch: issued credentials with their request index, and
failures, both in request order. -/
structure BatchReport where
  issued : List (Nat × Credential)
  failures : List BatchFailure

namespace BatchReport

/-- The number of requests. -/
def total (r : BatchReport) : Nat := r.issued.length + r.failures.length

/-- Whether every request was issued. -/
def isComplete (r : BatchReport) : Bool := r.failures.isEmpty

end BatchReport

/-- An issuing authority. -/
structure Vault where
  issuer : IssuerId
  keys : KeyStore
  catalogue : Catalogue

namespace Vault

/-- A vault of checked parts, with the events that announce it: a warning
when its issuer has no key, then readiness. -/
def assemble (issuer : IssuerId) (keys : KeyStore) (catalogue : Catalogue) :
    Vault × List LogEvent :=
  let warning : List LogEvent :=
    if (keys.current? issuer).isNone then
      [⟨.warn, .vault, "vault issuer has no signing key; issuance will fail",
        [("issuer", .shown issuer.val)]⟩]
    else []
  (⟨issuer, keys, catalogue⟩, warning ++
    [⟨.info, .vault, "vault ready", [("issuer", .shown issuer.val), ("keys", .count keys.size),
      ("templates", .count catalogue.size)]⟩])

/-- Build a vault: load every key in order (reading variables with `env`),
store them, then check every template. -/
def ofConfig (c : VaultConfig) (env : String → Option String) :
    Except ConfigError (Vault × List LogEvent) := do
  let keys ← c.keys.mapM fun k => k.loadWith env
  let store ← (KeyStore.ofKeys keys).mapError ConfigError.key
  let catalogue ← Catalogue.ofConfigs c.templates
  .ok (assemble c.issuer store catalogue)

/-- Issue one credential at time `now`; `fresh` identifies it unless the
record names its own identifier.  Success brings a debug event. -/
def issue (v : Vault) (credentialType : String) (r : SubjectRecord) (now : Timestamp)
    (fresh : CredentialId) : Except IssuanceError (Credential × LogEvent) := do
  let t ← match v.catalogue.resolve credentialType with
    | some t => .ok t
    | none => .error (.unknownCredentialType credentialType)
  let claims ← buildClaims t r v.issuer now fresh
  let key ← match v.keys.current? v.issuer with
    | some k => .ok k
    | none => .error (.noSigningKey v.issuer.val)
  let payload ← (Json.canonical claims.payload).mapError IssuanceError.ofCanonical
  let event : LogEvent := ⟨.debug, .vault, "issued credential",
    [("credential_type", .quoted credentialType), ("jti", .shown claims.credentialId.urn),
     ("sub", .shown claims.subject), ("kid", .shown key.kid.val)]⟩
  .ok (⟨claims, Jws.encodeCompact key payload, key.kid⟩, event)

/-- The identity of a request in a batch report: the record's value of its
template's subject field, or `#` and the index. -/
def recordId (v : Vault) (index : Nat) (req : IssuanceRequest) : String :=
  let given := match v.catalogue.resolve req.credentialType with
    | some t => req.subject.get? t.subjectField
    | none => none
  match given with
  | some (.str s) => s
  | some other => other.compact
  | none => "#" ++ toString index

/-- Issue each request, the one at index `i` at the clock's reading `clock i`,
drawing a fresh identifier for each from `e`. -/
def issueEach (v : Vault) (clock : Nat → Timestamp) :
    Nat → List IssuanceRequest → Entropy →
      List (Nat × IssuanceRequest × Except IssuanceError (Credential × LogEvent)) × Entropy
  | _, [], e => ([], e)
  | i, req :: rest, e =>
    let (bytes, e) := e.take 16
    let result :=
      v.issue req.credentialType req.subject (clock i) (CredentialId.ofRandomBytes bytes)
    let (more, e) := issueEach v clock (i + 1) rest e
    ((i, req, result) :: more, e)

/-- The warning that reports a failed request. -/
def failureEvent (f : BatchFailure) : LogEvent :=
  ⟨.warn, .vault, "credential issuance failed",
    [("index", .count f.index), ("record_id", .shown f.recordId),
     ("credential_type", .shown f.credentialType), ("error_kind", .quoted f.error.shortName),
     ("error", .shown f.error.message)]⟩

/-- What a batch run leaves behind. -/
structure BatchRun where
  /-- The issued credentials and the failures. -/
  report : BatchReport
  /-- The debug events of issued credentials that a concurrent run emits on
  its worker threads, in request order. -/
  workerEvents : List LogEvent
  /-- The events emitted on the calling thread, in order. -/
  events : List LogEvent

/-- Issue a batch, each request at its own reading of the clock.  On the
calling thread each request's event comes in request order: the debug event of
an issued credential (unless `concurrent`, where workers emit those) or the
warning of a failure; a summary closes the list. -/
def issueBatch (v : Vault) (requests : List IssuanceRequest) (clock : Nat → Timestamp)
    (e : Entropy) (concurrent : Bool) : BatchRun × Entropy :=
  let (results, e) := v.issueEach clock 0 requests e
  let step := fun (acc : BatchReport × List LogEvent × List LogEvent)
      (item : Nat × IssuanceRequest × Except IssuanceError (Credential × LogEvent)) =>
    let (report, workers, events) := acc
    match item with
    | (i, _, .ok (c, debug)) =>
      let report := ⟨report.issued ++ [(i, c)], report.failures⟩
      if concurrent then (report, workers ++ [debug], events)
      else (report, workers, events ++ [debug])
    | (i, req, .error err) =>
      let f : BatchFailure := ⟨i, v.recordId i req, req.credentialType, err⟩
      (⟨report.issued, report.failures ++ [f]⟩, workers, events ++ [failureEvent f])
  let (report, workers, events) := results.foldl step (⟨[], []⟩, [], [])
  let summary : LogEvent := ⟨.info, .vault, "batch complete",
    [("total", .count report.total), ("issued", .count report.issued.length),
     ("failed", .count report.failures.length)]⟩
  (⟨report, workers, events ++ [summary]⟩, e)

/-- Make `key` the active key of its issuer; gives the retired key's id. -/
def rotate (v : Vault) (key : SigningKey) : Except KeyError (KeyId × Vault × LogEvent) := do
  let (previous, keys, event) ← v.keys.rotate key
  .ok (previous.kid, { v with keys := keys }, event)

/-- The published keys of `issuer`, or of every issuer. -/
def jwks (v : Vault) (issuer : Option IssuerId) : JwkSet := v.keys.jwks issuer

end Vault

end Attest
