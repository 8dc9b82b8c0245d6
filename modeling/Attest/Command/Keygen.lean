import Attest.Command.Load
import Attest.Command.Parse
import Attest.Key.Generate

/-!
# Generating a signing key pair

`keygen` makes a fresh key for an issuer, writes its secret and its public
key as hexadecimal text to `<output>/<prefix>.key` and `<output>/<prefix>.pub`,
and prints both paths and a configuration snippet.

The snippet is the `keys:` entry of a vault configuration for the new key.
It never holds the secret: it names an environment variable, made from the
issuer by upper-casing ASCII letters and digits, turning every other
character into `_`, and appending `_SIGNING_KEY`.  The issuer is written as a
double-quoted string with escapes.
-/

namespace Attest

/-- The arguments of `keygen`. -/
structure KeygenArgs where
  algorithm : Algorithm
  issuer : String
  /-- The directory for the key files. -/
  output : String
  /-- The file name before `.key` and `.pub`. -/
  stem : String
  deriving Repr

/-- Refuse an empty path. -/
def nonEmptyPath (v : String) : Option ValueFault := if v.isEmpty then some .empty else none

/-- Refuse a name that is no signing algorithm. -/
def algorithmName (v : String) : Option ValueFault :=
  match Algorithm.ofName? v with
  | .ok _ => none
  | .error name => some (.invalid (KeyError.unsupportedAlgorithm name).message)

/-- The options of `keygen`. -/
def keygenOptions : List OptionSpec :=
  [{ long := "algorithm", short := some 'a', action := .value "ALGORITHM", default := some "EdDSA",
     help := "Signature algorithm: EdDSA or ES256", order := 0, check := algorithmName },
   { long := "issuer", action := .value "ISSUER", required := true,
     help := "Issuer identity the key signs for", order := 1 },
   { long := "output", short := some 'o', action := .value "OUTPUT", default := some ".",
     help := "Output directory for the key files", order := 2, check := nonEmptyPath },
   { long := "prefix", action := .value "PREFIX", default := some "credvault",
     help := "Prefix for the key filenames", order := 3 }]

namespace KeygenArgs

/-- The arguments from the options given, defaults filling the rest. -/
def ofMatches (g : Matches) : KeygenArgs :=
  let algorithm := match Algorithm.ofName? ((g.value? "algorithm").getD "EdDSA") with
    | .ok a => a
    | .error _ => .edDsa
  ⟨algorithm, (g.value? "issuer").getD "", (g.value? "output").getD ".",
    (g.value? "prefix").getD "credvault"⟩

end KeygenArgs

/-- The environment variable that a configuration names for an issuer's
secret. -/
def envVarName (issuer : String) : String :=
  String.ofList (issuer.toList.map fun c =>
    if c.isAlphanum then c.toUpper else '_') ++ "_SIGNING_KEY"

/-- The configuration snippet for a key whose secret was written to
`keyPath`. -/
def configSnippet (k : SigningKey) (keyPath : String) : String :=
  let var := envVarName k.issuer.val
  "# export " ++ var ++ "=$(cat " ++ keyPath ++ ")\nkeys:\n  - issuer: " ++ Text.quoted k.issuer.val ++
    "\n    algorithm: " ++ k.algorithm.name ++ "\n    kid: \"" ++ k.kid.val ++
    "\"\n    public_key: \"" ++ k.publicKeyHex ++ "\"\n    private_key_env: " ++ var ++ "\n"

namespace Command

/-- Write a file; a failure is seen from `context` and the path. -/
def writeText {m : Type → Type} [Monad m] [Host m] (path text context : String) :
    ExceptT Fault m Unit := do
  match ← Host.writeFile path text with
  | .ok () => pure ()
  | .error e => throw ((Fault.ofIo e).within (context ++ path))

/-- `keygen`: check the issuer, make the output directory, generate the key,
write both files and print the confirmation and the snippet. -/
def keygen {m : Type → Type} [Monad m] [Host m] (args : KeygenArgs) : ExceptT Fault m Nat := do
  let issuer ← match IssuerId.ofString args.issuer with
    | .ok i => pure i
    | .error e => throw ⟨["invalid --issuer", e.message]⟩
  match ← Host.createDirAll args.output with
  | .ok () => pure ()
  | .error e => throw ((Fault.ofIo e).within ("failed to create output directory: " ++ args.output))
  let entropy ← Host.freshEntropy
  let key ← match (SigningKey.generate issuer args.algorithm entropy).1 with
    | .ok k => pure k
    | .error e => throw ((Fault.ofKey e).within "key generation failed")
  let keyPath := joinPath args.output (args.stem ++ ".key")
  let pubPath := joinPath args.output (args.stem ++ ".pub")
  writeText keyPath key.secretKeyHex "failed to write private key: "
  writeText pubPath key.publicKeyHex "failed to write public key: "
  say ("OK: generated " ++ key.algorithm.name ++ " key for " ++ key.issuer.val)
  say ("  Private key: " ++ keyPath)
  say ("  Public key:  " ++ pubPath)
  say ""
  Host.emit (.out (configSnippet key keyPath))
  pure 0

end Command

end Attest
