import Attest.Command.Issue
import Attest.Command.Inspect
import Attest.Log.Render

/-!
# The `credvault` program

The program takes two global options, allowed before or after the
subcommand: `-v`/`--verbose`, counted, and `--log-json`.  Its subcommands are
`keygen`, `issue`, `templates` and `jwks`; `help` shows the help of the
subcommands named after it.

A run first logs the program's start at debug level, then runs the
subcommand.  A failure is logged as an error and written to standard error
as `error: ` and the chain of messages; the exit status is then `1`.
-/

namespace Attest

/-- The description of the program. -/
def programAbout : String :=
  "The credvault command-line tool: signing key generation, batch credential issuance from " ++
    "YAML/JSON records, template listing, and JWK Set export."

/-- The options every subcommand also takes. -/
def globalOptions : List OptionSpec :=
  [{ long := "verbose", short := some 'v', action := .count,
     help := "Enable verbose output. Repeat for more verbosity (-v, -vv, -vvv)", order := 0 },
   { long := "log-json", action := .flag, help := "Emit logs as JSON lines on stderr", order := 1 }]

/-- The help option. -/
def helpOption : OptionSpec :=
  { long := "help", short := some 'h', action := .help, help := "Print help", order := 999 }

/-- The version option. -/
def versionOption : OptionSpec :=
  { long := "version", short := some 'V', action := .version, help := "Print version", order := 999 }

/-- The subcommands: name, description, and own options. -/
def subcommandTable : List (String × String × List OptionSpec) :=
  [("keygen", "Generate a signing key pair", keygenOptions),
   ("issue", "Issue credentials for a file of subject records", issueOptions),
   ("templates", "List the credential templates of a vault configuration", templatesOptions),
   ("jwks", "Print the public JWK Set of a vault configuration", jwksOptions)]

/-- The description of the `help` subcommand. -/
def helpAbout : String := "Print this message or the help of the given subcommand(s)"

/-- The program as a command. -/
def programSpec : CommandSpec :=
  { name := "credvault", about := some programAbout,
    options := globalOptions ++ [helpOption, versionOption],
    subcommands := subcommandTable.map (fun (n, a, _) => (n, a)) ++ [("help", helpAbout)] }

/-- The subcommands as commands of the program, with the global options. -/
def subcommandSpecs : List (String × CommandSpec) :=
  subcommandTable.map fun (n, a, own) =>
    (n, { name := "credvault " ++ n, about := some a, options := own ++ globalOptions ++ [helpOption],
          subcommands := [] })

/-- A subcommand as a command of its own, without the global options. -/
def standaloneSpec? (name : String) : Option CommandSpec :=
  (subcommandTable.find? (·.1 == name)).map fun (n, _, own) =>
    { name := n, about := some ("Arguments for `credvault " ++ n ++ "`"),
      options := own ++ [helpOption], subcommands := [] }

/-- The help text of the `help` subcommand itself. -/
def helpHelpText : String :=
  helpAbout ++ "\n\nUsage: credvault help [COMMAND]...\n\nArguments:\n  [COMMAND]...\n" ++
    "          Print help for the subcommand(s)\n"

/-- A subcommand with its arguments. -/
inductive Subcommand where
  | keygen (args : KeygenArgs)
  | issue (args : IssueArgs)
  | templates (args : TemplatesArgs)
  | jwks (args : JwksArgs)
  deriving Repr

namespace Subcommand

/-- The subcommand of a name, from the options given to it. -/
def ofMatches? (name : String) (g : Matches) : Option Subcommand :=
  match name with
  | "keygen" => some (.keygen (KeygenArgs.ofMatches g))
  | "issue" => some (.issue (IssueArgs.ofMatches g))
  | "templates" => some (.templates (TemplatesArgs.ofMatches g))
  | "jwks" => some (.jwks (JwksArgs.ofMatches g))
  | _ => none

/-- Run a subcommand; gives its exit status. -/
def run {m : Type → Type} [Monad m] [Host m] : Subcommand → ExceptT Fault m Nat
  | .keygen a => Command.keygen a
  | .issue a => Command.issue a
  | .templates a => Command.templates a
  | .jwks a => Command.jwks a

end Subcommand

/-- A command line read: the verbosity, whether logs are JSON, and the
subcommand. -/
structure Invocation where
  verbosity : Nat
  jsonLogs : Bool
  command : Subcommand
  deriving Repr

/-- The log style of an invocation. -/
def Invocation.logStyle (i : Invocation) : LogStyle := LogStyle.ofVerbosity i.verbosity i.jsonLogs

/-- What `help` shows for the subcommand names after it. -/
def helpFor (names : List String) : Halt :=
  match names with
  | [] => .shown programSpec.helpText
  | ["help"] => .shown helpHelpText
  | "help" :: w :: _ => .refused (.unknownSubcommand w [] "credvault help [COMMAND]...")
  | w :: more =>
    match subcommandSpecs.lookup w with
    | none => .refused (.unknownSubcommand w [] programSpec.usage)
    | some spec =>
      match more with
      | [] => .shown spec.helpText
      | x :: _ => .refused (.unknownSubcommand x [] spec.usage)

/-- Read the program's command line (without the program name). -/
def readCommandLine (words : List String) : Except Halt Invocation := do
  let (top, sub) ← programSpec.readWords subcommandSpecs words Reading.start
  match sub with
  | none =>
    if top.given.isEmpty then throw (.prompted programSpec.helpText)
    else throw (.refused (.noSubcommand "credvault" (programSpec.subcommands.map (·.1))
      programSpec.usage))
  | some ("help", rest) => throw (helpFor rest)
  | some (name, rest) =>
    match subcommandSpecs.lookup name with
    | none => throw (helpFor [name])
    | some spec =>
      let leaf ← spec.readLeaf rest
      match Subcommand.ofMatches? name leaf with
      | none => throw (helpFor [name])
      | some command =>
        let verbosity := if leaf.has "verbose" then leaf.count "verbose" else top.given.count "verbose"
        pure ⟨verbosity, leaf.has "log-json" || top.given.has "log-json", command⟩

/-- Read the arguments of one subcommand run on its own. -/
def readStandalone (name : String) (words : List String) : Option (Except Halt Subcommand) :=
  (standaloneSpec? name).map fun spec => do
    let g ← spec.readLeaf words
    match Subcommand.ofMatches? name g with
    | some c => pure c
    | none => throw (.shown spec.helpText)

/-- Run a read command line: log the start, run the subcommand, and report a
failure.  Gives the exit status. -/
def Invocation.execute {m : Type → Type} [Monad m] [Host m] (i : Invocation) : m Nat := do
  Command.emitAll [⟨.debug, .command, "credvault starting", [("version", .quoted programVersion)]⟩]
  match ← i.command.run.run with
  | .ok code => pure code
  | .error f =>
    Command.emitAll [⟨.error, .command, f.text, []⟩]
    Command.complain ("error: " ++ f.text)
    pure 1

end Attest
