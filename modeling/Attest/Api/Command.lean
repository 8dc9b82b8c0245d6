import Attest.Api.Redact
import Attest.Api.Templates
import Attest.Command.Program
import Attest.Text.Terminal

/-!
# Running the command line

`cli` runs the program on a command line in a fresh working directory that
holds the request's files; `cli_lib` runs one subcommand (its own options
only, no global ones) or one of the loaders.  Both answer with the redacted
standard output and standard error, the files the run created or changed,
and the key files it wrote.

The program writes its log lines to standard error, filtered and styled as
its options ask.  A subcommand run on its own writes none; its events,
except those of worker threads, come beside the answer.
-/

namespace Attest

namespace Api

/-- The words of a command line. -/
def commandWords (req : Fields) : Except Failure (List String) :=
  match req.get? "args" with
  | some (.arr items) =>
    items.mapM fun item =>
      match item with
      | .str s => .ok s
      | _ => .error (badInput "args must be an array of strings")
  | _ => .error (badInput "args must be an array of strings")

/-- Whether a file name is a plain relative path: not empty, not starting at
the root or at the current directory, and never naming a parent directory. -/
def isPlainPath (name : String) : Bool :=
  let parts := name.splitOn "/"
  !name.isEmpty && !name.startsWith "/" && parts.head? != some "." && !parts.contains ".."

/-- The files of a request, by relative path. -/
def requestFiles (req : Fields) : Except Failure (List (String × String)) :=
  match req.get? "files" with
  | none => .ok []
  | some (.obj ms) =>
    ms.mapM fun (name, v) =>
      match v with
      | .str text =>
        if isPlainPath name then .ok (name, text)
        else .error (badInput ("file name " ++ Text.quoted name ++ " must be a plain relative path"))
      | _ => .error (badInput "file contents must be strings")
  | some _ => .error (badInput "files must be an object")

/-- A machine whose working directory holds the request's files. -/
def machineOf (now : Timestamp) (seed : Bytes) (files env : List (String × String)) : Machine :=
  ⟨FileTree.ofFiles files, env, now, Entropy.ofSeed seed, []⟩

/-- The text a run wrote on standard output. -/
def standardOutput (written : List Output) : String :=
  String.join (written.map fun o =>
    match o with
    | .out t => t
    | _ => "")

/-- The text a run wrote on standard error; log events are shown in `style`,
or not at all. -/
def standardError (style : Option LogStyle) (written : List Output) : String :=
  let logLine := fun (e : LogEvent) =>
    match style with
    | some s => if s.shows e then e.line s ++ "\n" else ""
    | none => ""
  String.join (written.map fun o =>
    match o with
    | .err t => t
    | .log e => logLine e
    | .workerLog e => logLine e
    | .out _ => "")

/-- The events a capture on the calling thread sees. -/
def capturedEvents (written : List Output) : List LogEvent :=
  written.filterMap fun o =>
    match o with
    | .log e => some e
    | _ => none

/-- The redacted outputs of a run as answer members. -/
def runMembers (inputs : List (String × String)) (before after : FileTree) (stdout stderr : String) :
    List (String × Json) :=
  let r := redactRun (inputs.map (·.2)) stdout stderr (after.changesSince before)
  [("stdout", .str r.stdout), ("stderr", .str r.stderr),
   ("files", Json.object (r.files.map fun (p, t) => (p, .str t))),
   ("keys", .arr (r.keys.map (·.toJson)))]

/-- `cli`: run the program. -/
def cliRequest (now : Timestamp) (seed : Bytes) (req : Fields) : Outcome := do
  let words ← commandWords req
  let files ← requestFiles req
  let env ← environment req
  let start := machineOf now seed files env
  let (code, stdout, stderr, finish) :=
    match readCommandLine words with
    | .error (.shown text) => (0, Text.Terminal.plain text, "", start)
    | .error halt => (2, "", Text.Terminal.plain halt.text, start)
    | .ok inv =>
      let (code, m) := (inv.execute : StateM Machine Nat).run start
      (code, standardOutput m.written, standardError (some inv.logStyle) m.written, m)
  .ok (Json.object ([("exit", Json.ofNat code)] ++ runMembers files start.files finish.files stdout stderr))

/-- The JSON of a loaded configuration: the issuer, the keys, and the
template names in file order. -/
def configJson (c : VaultConfig) : Json :=
  Json.object
    [("issuer", .str c.issuer.val),
     ("keys", .arr (c.keys.map fun k => Json.object
        [("issuer", .str k.issuer.val), ("algorithm", .str k.algorithm.name),
         ("debug", .str k.debugText)])),
     ("templates", strings (c.templates.map (·.typeName)))]

/-- The JSON of a vault: its issuer, its key issuers and its type names. -/
def vaultJson (v : Vault) : Json :=
  Json.object
    [("issuer", .str v.issuer.val), ("issuers", strings v.keys.issuers),
     ("type_names", strings v.catalogue.typeNames)]

/-- The JSON of an issuance request. -/
def requestJson (r : IssuanceRequest) : Json :=
  Json.object [("credential_type", .str r.credentialType), ("subject", .obj r.subject.fields)]

/-- The result of a failed command. -/
def faultResult (f : Fault) : Json :=
  Json.object [("error", .str "anyhow"), ("message", .str f.text)]

/-- The result of a command run. -/
def loaderResult {α : Type} (toJson : α → Json) (r : Except Fault α) : Json :=
  match r with
  | .ok v => Json.object [("ok", toJson v)]
  | .error f => faultResult f

/-- Run one subcommand or loader; gives the result and the machine after it. -/
def runLibrary (name : String) (rest : List String) (start : Machine) : Json × Machine :=
  let path := rest.headD ""
  match name with
  | "load_config" =>
    let (r, m) := ((Command.loadConfig path).run : StateM Machine _).run start
    (loaderResult configJson r, m)
  | "load_vault" =>
    let (r, m) := ((Command.loadVault path).run : StateM Machine _).run start
    (loaderResult vaultJson r, m)
  | "load_requests" =>
    let (r, m) := ((Command.loadRequests path).run : StateM Machine _).run start
    (loaderResult (fun rs => .arr (rs.map requestJson)) r, m)
  | _ =>
    match readStandalone name rest with
    | none =>
      (Json.object [("error", .str "BadInput"),
        ("message", .str ("unknown cli_lib command " ++ Text.quoted name))], start)
    | some (.error halt) =>
      (Json.object [("error", .str "clap"), ("message", .str halt.text)], start)
    | some (.ok command) =>
      let (r, m) := (command.run.run : StateM Machine _).run start
      (loaderResult Json.ofNat r, m)

/-- `cli_lib`: run a subcommand or a loader in this process.  Gives the
answer and the events captured on the calling thread. -/
def libraryRequest (now : Timestamp) (seed : Bytes) (req : Fields) : Outcome × List LogEvent :=
  match (do
      let words ← commandWords req
      let files ← requestFiles req
      let env ← processEnvironment req
      pure (words, files, env) : Except Failure _) with
  | .error f => (.error f, [])
  | .ok (words, files, env) =>
    let start := machineOf now seed files env
    let (result, finish) := match words with
      | [] => (Json.object [("error", .str "BadInput"), ("message", .str "empty args")], start)
      | name :: rest => runLibrary name rest start
    let stdout := standardOutput finish.written
    let stderr := standardError none finish.written
    (.ok (Json.object ([("result", result)] ++ runMembers files start.files finish.files stdout stderr)),
      capturedEvents finish.written)

end Api

end Attest
