import Attest.Command.Host
import Attest.Command.Fault
import Attest.Credential.Vault

/-!
# Loading configurations and records

The command line reads a vault configuration and a list of issuance
requests from files, both YAML (JSON text is YAML too).  Each step that can
fail names the file in its context:

* `failed to read config`, `failed to parse config`, `invalid vault
  configuration` for the configuration;
* `failed to read records`, `failed to parse records` for the requests.

Building a vault emits its readiness events.
-/

namespace Attest

namespace Command

/-- Emit log events in order. -/
def emitAll {m : Type → Type} [Monad m] [Host m] (events : List LogEvent) : m Unit :=
  events.forM fun e => Host.emit (.log e)

/-- Write a line on standard output. -/
def say {m : Type → Type} [Host m] (text : String) : m Unit := Host.emit (.out (text ++ "\n"))

/-- Write a line on standard error. -/
def complain {m : Type → Type} [Host m] (text : String) : m Unit :=
  Host.emit (.err (text ++ "\n"))

/-- The text of a file; a failure is seen from `context`. -/
def readText {m : Type → Type} [Monad m] [Host m] (path context : String) :
    ExceptT Fault m String := do
  match ← Host.readFile path with
  | .ok text => pure text
  | .error e => throw ((Fault.ofIo e).within context)

/-- Read and parse a vault configuration file. -/
def loadConfig {m : Type → Type} [Monad m] [Host m] (path : String) :
    ExceptT Fault m VaultConfig := do
  let text ← readText path ("failed to read config: " ++ path)
  match VaultConfig.ofYaml text with
  | .ok config => pure config
  | .error e => throw ((Fault.ofConfig e).within ("failed to parse config: " ++ path))

/-- The values of the environment variables that a configuration's keys
name. -/
def keyEnvironment {m : Type → Type} [Monad m] [Host m] (config : VaultConfig) :
    m (List (String × String)) :=
  (config.keys.filterMap (·.privateKeyEnv)).filterMapM fun name => do
    return (← Host.lookupEnv name).map (name, ·)

/-- Read a configuration file and build its vault. -/
def loadVault {m : Type → Type} [Monad m] [Host m] (path : String) : ExceptT Fault m Vault := do
  let config ← loadConfig path
  let env ← keyEnvironment config
  match Vault.ofConfig config (env.lookup ·) with
  | .ok (vault, events) =>
    emitAll events
    pure vault
  | .error e => throw ((Fault.ofConfig e).within ("invalid vault configuration: " ++ path))

/-- Read and parse a file of issuance requests: a list of records, each a
credential type and a subject. -/
def loadRequests {m : Type → Type} [Monad m] [Host m] (path : String) :
    ExceptT Fault m (List IssuanceRequest) := do
  let text ← readText path ("failed to read records: " ++ path)
  match (Yaml.Document.read text).decode (fun p d => Decode.list p IssuanceRequest.decode d) with
  | .ok requests => pure requests
  | .error e => throw ⟨["failed to parse records: " ++ path, e.text]⟩

end Command

end Attest
