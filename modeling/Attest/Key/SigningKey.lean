import Attest.Key.Error
import Attest.Key.Jwk
import Attest.Identity
import Attest.Curve.Ed25519
import Attest.Curve.P256

/-!
# Signing keys

A `SigningKey` binds secret key material to the issuer it signs for and to
the key id published in token headers.  Loading checks the material: it must
decode from hexadecimal, hold exactly 32 bytes, and for ES256 be a scalar in
`[1, n - 1]`.  Without an explicit id the key is named by the thumbprint of
its public JWK.

The secret never appears in the debugging text, which shows issuer,
algorithm, key id and the first four bytes of the public key.
-/

namespace Attest

/-- Secret key material of either algorithm. -/
inductive KeyMaterial where
  | ed25519 (seed : Bytes)
  | p256 (scalar : Nat)
  deriving DecidableEq, Repr

namespace KeyMaterial

/-- The algorithm of the material. -/
def algorithm : KeyMaterial → Algorithm
  | .ed25519 _ => .edDsa
  | .p256 _ => .es256

/-- The public key bytes: 32 for Ed25519, the 65-byte uncompressed point for P-256. -/
def publicKey : KeyMaterial → Bytes
  | .ed25519 seed => Ed25519.publicKey seed
  | .p256 d => P256.encode (P256.publicKey d)

/-- The 32 secret bytes. -/
def secret : KeyMaterial → Bytes
  | .ed25519 seed => seed
  | .p256 d => Modular.toBigEndian 32 d

/-- The public JWK without key id. -/
def publicJwk (m : KeyMaterial) (pub : Bytes) : Jwk :=
  match m with
  | .ed25519 _ => ⟨"OKP", "Ed25519", Base64Url.encode pub, none, some "EdDSA", some "sig", none⟩
  | .p256 _ =>
    ⟨"EC", "P-256", Base64Url.encode ((pub.drop 1).take 32), some (Base64Url.encode (pub.drop 33)),
      some "ES256", some "sig", none⟩

/-- Check secret bytes for an algorithm. -/
def ofSecret (alg : Algorithm) (secret : Bytes) : Except KeyFault KeyMaterial :=
  if secret.isEmpty then .error .empty
  else if secret.length ≠ alg.secretLength then .error (.wrongLength secret.length)
  else
    match alg with
    | .edDsa => .ok (.ed25519 secret)
    | .es256 =>
      let d := Modular.ofBigEndian secret
      if d = 0 ∨ d ≥ P256.groupOrder then .error .scalarOutOfRange else .ok (.p256 d)

/-- Sign a message. -/
def sign (m : KeyMaterial) (msg : Bytes) : Bytes :=
  match m with
  | .ed25519 seed => Ed25519.sign seed msg
  | .p256 d => P256.sign d msg

end KeyMaterial

/-- A signing key of an issuer. -/
structure SigningKey where
  issuer : IssuerId
  kid : KeyId
  material : KeyMaterial
  publicKey : Bytes

namespace SigningKey

/-- The algorithm of the key. -/
def algorithm (k : SigningKey) : Algorithm := k.material.algorithm

/-- Name material: the given key id, or the thumbprint of its public JWK. -/
def assemble (issuer : IssuerId) (material : KeyMaterial) (kid : Option KeyId) :
    Except KeyError SigningKey :=
  let pub := material.publicKey
  match kid with
  | some k => .ok ⟨issuer, k, material, pub⟩
  | none =>
    match KeyId.ofString (material.publicJwk pub).thumbprint with
    | .ok k => .ok ⟨issuer, k, material, pub⟩
    | .error _ => .error (.malformed issuer.val material.algorithm .empty)

/-- Load a key from secret bytes. -/
def ofSecretBytes (issuer : IssuerId) (alg : Algorithm) (secret : Bytes) (kid : Option KeyId) :
    Except KeyError SigningKey :=
  match KeyMaterial.ofSecret alg secret with
  | .error f => .error (.malformed issuer.val alg f)
  | .ok m => assemble issuer m kid

/-- Load a key from a hexadecimal secret. -/
def ofSecretHex (issuer : IssuerId) (alg : Algorithm) (hex : String) (kid : Option KeyId) :
    Except KeyError SigningKey :=
  match Hex.decode hex with
  | .error e => .error (.malformed issuer.val alg (.secretNotHex e))
  | .ok bytes => ofSecretBytes issuer alg bytes kid

/-- The hexadecimal public key. -/
def publicKeyHex (k : SigningKey) : String := Hex.encode k.publicKey

/-- The hexadecimal secret. -/
def secretKeyHex (k : SigningKey) : String := Hex.encode k.material.secret

/-- The public JWK with the key id. -/
def publicJwk (k : SigningKey) : Jwk := { k.material.publicJwk k.publicKey with kid := some k.kid.val }

/-- Sign a message. -/
def sign (k : SigningKey) (msg : Bytes) : Bytes := k.material.sign msg

/-- Whether hexadecimal public key bytes name this key's public key: exactly its
32 bytes for Ed25519, a SEC1 encoding of its point for P-256. -/
def checkPublicHex (k : SigningKey) (hex : String) : Except KeyError Unit :=
  match Hex.decode hex with
  | .error e => .error (.malformed k.issuer.val k.algorithm (.publicNotHex e))
  | .ok bytes =>
    let same :=
      match k.material with
      | .ed25519 _ => bytes == k.publicKey
      | .p256 d => P256.decode? bytes == some (P256.publicKey d)
    if same then .ok () else .error (.publicKeyMismatch k.issuer.val)

/-- The debugging text, which leaves the secret out. -/
def debugText (k : SigningKey) : String :=
  "SigningKey \x7b issuer: IssuerId(" ++ Text.quoted k.issuer.val ++ "), algorithm: " ++
    k.algorithm.debugName ++ ", kid: KeyId(" ++ Text.quoted k.kid.val ++ "), public_key: " ++
    Text.quoted (Hex.encodeHead k.publicKey ++ "...") ++ ", .. \x7d"

end SigningKey

end Attest
