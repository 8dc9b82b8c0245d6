import Attest.Command.Keygen

/-!
# Issuing a file of records

`issue` builds a vault from a configuration file, reads a list of issuance
requests, issues them as one batch, and writes one JSON line per issued
credential (its index, type, key id, token and claims) to standard output or
to a file.  Each failure is then reported on standard error, followed by a
summary.  The exit status is `0` when every request was issued and `2` when
some failed.
-/

namespace Attest

/-- The arguments of `issue`. -/
structure IssueArgs where
  config : String
  input : String
  output : Option String
  /-- Whether to issue on all processor cores. -/
  concurrent : Bool
  deriving Repr

/-- The options of `issue`. -/
def issueOptions : List OptionSpec :=
  [{ long := "config", short := some 'c', action := .value "CONFIG", required := true,
     help := "Vault configuration (YAML or JSON)", order := 0, check := nonEmptyPath },
   { long := "input", short := some 'i', action := .value "INPUT", required := true,
     help := "Subject records (YAML or JSON list of `\x7bcredential_type, subject\x7d`)", order := 1,
     check := nonEmptyPath },
   { long := "output", short := some 'o', action := .value "OUTPUT",
     help := "Write JSON lines here instead of stdout", order := 2, check := nonEmptyPath },
   { long := "parallel", action := .flag, help := "Issue on all CPU cores", order := 3 }]

/-- The arguments from the options given. -/
def IssueArgs.ofMatches (g : Matches) : IssueArgs :=
  ⟨(g.value? "config").getD "", (g.value? "input").getD "", g.value? "output", g.has "parallel"⟩

/-- The exit status of a batch with failures. -/
def partialExit : Nat := 2

/-- The JSON line of an issued credential. -/
def issuedLine (index : Nat) (c : Credential) : String :=
  Json.compact (Json.object
    [("index", Json.ofNat index), ("credential_type", .str c.claims.credentialType),
     ("kid", .str c.kid.val), ("token", .str c.token), ("claims", c.claims.payload)])

/-- The report line of a failed request. -/
def failureLine (f : BatchFailure) : String :=
  "FAILED: #" ++ toString f.index ++ " record=" ++ f.recordId ++ " type=" ++ f.credentialType ++
    " kind=" ++ f.error.shortName ++ ": " ++ f.error.message

namespace Command

/-- `issue`: load the vault and the requests, issue the batch, write the
issued credentials, then report the failures and a summary. -/
def issue {m : Type → Type} [Monad m] [Host m] (args : IssueArgs) : ExceptT Fault m Nat := do
  let vault ← loadVault args.config
  let requests ← loadRequests args.input
  emitAll [⟨.info, .batchCommand, "issuing batch",
    [("records", .count requests.length), ("parallel", .flag args.concurrent)]⟩]
  -- each request reads the clock as it is issued
  let readings ← requests.mapM fun _ => Host.now
  let entropy ← Host.freshEntropy
  let clock := fun i => readings.getD i ⟨0, 0⟩
  let (run, _) := vault.issueBatch requests clock entropy args.concurrent
  run.workerEvents.forM fun e => Host.emit (.workerLog e)
  emitAll run.events
  let lines := String.join (run.report.issued.map fun (i, c) => issuedLine i c ++ "\n")
  match args.output with
  | some path =>
    match ← Host.writeFile path lines with
    | .ok () => pure ()
    | .error e => throw ((Fault.ofIo e).within ("failed to create output: " ++ path))
  | none => if lines.isEmpty then pure () else Host.emit (.out lines)
  run.report.failures.forM fun f => complain (failureLine f)
  complain (toString run.report.issued.length ++ " issued, " ++ toString run.report.failures.length ++
    " failed (" ++ toString run.report.total ++ " records)")
  pure (if run.report.isComplete then 0 else partialExit)

end Command

end Attest
