import Attest.Api.Values
import Attest.Api.Keys
import Attest.Api.Templates
import Attest.Api.Issuance
import Attest.Api.Vault
import Attest.Api.Command
import Attest.Json.Read

/-!
# Answering a request line

`Api.respond` reads one request line, runs the operation it names, and writes
the answer line.  Everything the answer depends on besides the request, the
clock and a source of randomness, comes in as `Api.Context`.
-/

namespace Attest

namespace Api

/-- What a request may use besides its own text. -/
structure Context where
  /-- The current time. -/
  now : Timestamp
  /-- Random bytes for fresh keys and identifiers. -/
  seed : Bytes

/-- Run an operation that emits no events. -/
def answer (ctx : Context) (req : Fields) : Outcome :=
  match req.get? "op" with
  | none => .error (badInput "missing field \"op\"")
  | some (.str op) =>
    match op with
    | "hex" => hexRequest req
    | "canonical" => canonicalRequest req
    | "timestamp" => timestampRequest req
    | "identifier" => identifierRequest req
    | "algorithm" => algorithmRequest req
    | "key" => keyRequest req
    | "jws" => jwsRequest req
    | "jwk" => jwkRequest req
    | "coerce" => coerceRequest req
    | "key_config" => keyConfigRequest req
    | "build_claims" => buildClaimsRequest (Entropy.ofSeed ctx.seed) req
    | "template" => templateRequest req
    | "catalogue" => catalogueRequest req
    | "generate" => generateRequest (Entropy.ofSeed ctx.seed) req
    | "new_credential_id" => newCredentialIdRequest (Entropy.ofSeed ctx.seed)
    | other => .error (badInput ("unknown op " ++ Text.quoted other))
  | some _ => .error (badInput "field \"op\" must be a string")

/-- Run the operation a request names, with the events it emits. -/
def dispatch (ctx : Context) (req : Fields) : Outcome × List LogEvent :=
  match req.get? "op" with
  | some (.str "vault") => vaultRequest ctx.now (Entropy.ofSeed ctx.seed) req
  | some (.str "cli") => (cliRequest ctx.now ctx.seed req, [])
  | some (.str "cli_lib") => libraryRequest ctx.now ctx.seed req
  | _ => (answer ctx req, [])

/-- The answer to one request line.  A request that sets `logs` also gets
the events its operation emitted, drawn identifiers shown as markers. -/
def respond (ctx : Context) (line : String) : String :=
  match Json.read line with
  | .error e => (Outcome.toJson (.error (badInput ("invalid JSON: " ++ e.message line)))).compact
  | .ok (.obj req) =>
    let (outcome, events) := dispatch ctx req
    let named := namedIds (.obj req)
    let logs := if Fields.flag req "logs" then
        [("logs", Json.arr (events.map fun e => (LogEvent.maskIds named e).toJson))]
      else []
    (match Outcome.toJson outcome with
     | .obj ms => Json.object (ms ++ logs)
     | other => other).compact
  | .ok _ => (Outcome.toJson (.error (badInput "missing field \"op\""))).compact

end Api

end Attest
