import Attest.Credential.Error
import Attest.Key.SigningKey

/-!
# Key configuration

A configured signing key names its issuer and algorithm and gives its
secret either inline (`private_key`, hexadecimal) or as the name of an
environment variable that holds it (`private_key_env`), exactly one of the
two.  An expected public key, when given, must match the secret; the key id
defaults to the key's JWK thumbprint.

The debugging text never shows an inline secret.
-/

namespace Attest

/-- A signing key as configured. -/
structure KeyConfig where
  issuer : IssuerId
  algorithm : Algorithm
  privateKey : Option String
  privateKeyEnv : Option String
  publicKey : Option String
  kid : Option KeyId

namespace KeyConfig

/-- Read a key configuration; unknown members are refused. -/
def decode (path : List Decode.PathStep) (node : Decode.Doc) : Decode.Result KeyConfig := do
  let text := fun p d => Decode.optional p (Decode.string p) d
  let kid := fun p d => Decode.optional p (KeyId.decode p) d
  let found ← Decode.record "KeyConfig"
    [.required "issuer" IssuerId.decode, .required "algorithm" Algorithm.decode,
     .withDefault "private_key" text, .withDefault "private_key_env" text,
     .withDefault "public_key" text, .withDefault "kid" kid] false path node
  let issuer ← found.need "issuer" IssuerId.decode
  let algorithm ← found.need "algorithm" Algorithm.decode
  let privateKey ← found.getD "private_key" text none
  let privateKeyEnv ← found.getD "private_key_env" text none
  let publicKey ← found.getD "public_key" text none
  let kidValue ← found.getD "kid" kid none
  .ok ⟨issuer, algorithm, privateKey, privateKeyEnv, publicKey, kidValue⟩

/-- The secret text: the inline one, or the value of the named environment variable, looked
up with `env`; exactly one of the two must be given. -/
def secretText (c : KeyConfig) (env : String → Option String) : Except ConfigError String :=
  match c.privateKey, c.privateKeyEnv with
  | some hex, none => .ok hex
  | none, some var =>
    match env var with
    | some v => .ok v
    | none => .error (.missingKeyEnv c.issuer.val var)
  | _, _ => .error (.keySource c.issuer.val)

/-- Check the expected public key, when one is given, against a loaded key. -/
def checkPublic (c : KeyConfig) (key : SigningKey) : Except ConfigError Unit :=
  match c.publicKey with
  | some pub => (key.checkPublicHex pub).mapError ConfigError.key
  | none => pure ()

/-- Load the key, looking environment variables up with `env`. -/
def loadWith (c : KeyConfig) (env : String → Option String) : Except ConfigError SigningKey := do
  let secret ← c.secretText env
  let key ← (SigningKey.ofSecretHex c.issuer c.algorithm secret c.kid).mapError ConfigError.key
  c.checkPublic key
  .ok key

/-- The debugging text, with an inline secret hidden. -/
def debugText (c : KeyConfig) : String :=
  let opt (v : Option String) : String :=
    match v with
    | some s => "Some(" ++ Text.quoted s ++ ")"
    | none => "None"
  "KeyConfig \x7b issuer: IssuerId(" ++ Text.quoted c.issuer.val ++ "), algorithm: " ++
    c.algorithm.debugName ++ ", private_key: " ++ opt (c.privateKey.map fun _ => "[REDACTED]") ++
    ", private_key_env: " ++ opt c.privateKeyEnv ++ ", public_key: " ++ opt c.publicKey ++
    ", kid: " ++ (match c.kid with
      | some k => "Some(KeyId(" ++ Text.quoted k.val ++ "))"
      | none => "None") ++ " \x7d"

end KeyConfig

end Attest
