import Attest.Api.Basic
import Attest.Key.Jws
import Attest.Key.Generate

/-!
# Requests about keys

Algorithms, signing keys, JSON Web Keys and tokens: reading them, and the
facts a fresh key or credential identifier must satisfy whatever the random
draw.
-/

namespace Attest

namespace Api

/-- A key error as an answer. -/
def Failure.ofKey (e : KeyError) : Failure := ⟨"CryptoError." ++ e.variant, e.message⟩

/-- A decoding error as an answer. -/
def Failure.ofDecode (e : Decode.Error) : Failure := deserializeFailure e.text

/-- Read an algorithm name, trimmed and with its common spellings. -/
def algorithmOf (name : String) : Except Failure Algorithm :=
  (Algorithm.ofName? name).mapError fun n => Failure.ofKey (.unsupportedAlgorithm n)

/-- The signing key described by the fields `issuer`, `algorithm`,
`secret_hex` and an optional `kid`, checked in that order. -/
def keyOfFields (req : Fields) : Except Failure SigningKey := do
  let issuer ← liftValue (IssuerId.ofString (← req.string "issuer"))
  let alg ← algorithmOf (← req.string "algorithm")
  let secret ← req.string "secret_hex"
  let kid ← match ← req.string? "kid" with
    | none => .ok none
    | some k => (liftValue (KeyId.ofString k)).map some
  (SigningKey.ofSecretHex issuer alg secret kid).mapError Failure.ofKey

/-- The signing key a JSON value describes; a value that is no object has
none of the fields. -/
def keyOf (v : Json) : Except Failure SigningKey :=
  keyOfFields (match v with
    | .obj ms => ms
    | _ => [])

/-- The public facts of a key. -/
def keyFacts (k : SigningKey) : List (String × Json) :=
  [("algorithm", .str k.algorithm.name), ("issuer", .str k.issuer.val),
   ("jwk", k.publicJwk.toJson), ("kid", .str k.kid.val),
   ("public_key_hex", .str k.publicKeyHex), ("secret_key_hex", .str k.secretKeyHex),
   ("thumbprint", .str k.publicJwk.thumbprint)]

/-- The outcome of a check, as a member of an answer. -/
def checkJson (r : Except KeyError Unit) : Json :=
  match r with
  | .ok () => .str "ok"
  | .error e =>
    let f := Failure.ofKey e
    Json.object [("error", .str f.kind), ("message", .str f.message)]

/-- `algorithm`: read an algorithm name. -/
def algorithmRequest (req : Fields) : Outcome := do
  if req.flag "serde" then
    let v ← req.require "name"
    let alg ← (Algorithm.decode [] (.json v)).mapError Failure.ofDecode
    .ok (Json.object [("display", .str alg.name), ("serialized", .str alg.name)])
  else
    let alg ← algorithmOf (← req.string "name")
    let extra := if req.flag "extras" then [("display", Json.str alg.name)] else []
    .ok (Json.object ([("alg", .str alg.name), ("secret_len", Json.ofNat alg.secretLength)] ++
      extra))

/-- `key`: load a signing key, and optionally check a public key and sign a
message. -/
def keyRequest (req : Fields) : Outcome := do
  let k ← keyOfFields req
  let check ← match ← req.string? "public_hex" with
    | none => .ok []
    | some hex => .ok [("check_public", checkJson (k.checkPublicHex hex))]
  let signature ← match ← req.string? "message" with
    | none => .ok []
    | some msg => .ok [("signature_hex", Json.str (Hex.encode (k.sign msg.toUTF8.toList)))]
  let debug := if req.flag "debug" then [("debug", Json.str k.debugText)] else []
  .ok (Json.object (keyFacts k ++ check ++ signature ++ debug))

/-- The members of an object field. -/
def objectField (req : Fields) (name : String) : Except Failure Fields := do
  match ← req.require name with
  | .obj ms => .ok ms
  | _ => .error (badInput ("field " ++ Text.quoted name ++ " must be an object"))

/-- `jws`: sign a payload as a compact token. -/
def jwsRequest (req : Fields) : Outcome := do
  let k ← keyOf ((Json.Members.get? req "key").getD .null)
  let payload ← req.raw "payload"
  let token ← (Jws.encodeJson k payload).mapError Failure.ofCanonical
  .ok (Json.object [("token", .str token), ("header", .str (Json.canonicalText (Jws.header k)))])

/-- `jwk`: read a JWK and compute its thumbprint. -/
def jwkRequest (req : Fields) : Outcome := do
  let v ← req.require "jwk"
  let jwk ← (Jwk.decode [] (.json v)).mapError Failure.ofDecode
  .ok (Json.object [("thumbprint", .str jwk.thumbprint), ("jwk", jwk.toJson)])

/-- Whether `needle` occurs in `hay`. -/
def occursIn (needle : List Char) : List Char → Bool
  | [] => needle.isEmpty
  | c :: rest => needle.isPrefixOf (c :: rest) || occursIn needle rest

/-- `generate`: make two fresh keys and report what holds of them. -/
def generateRequest (entropy : Entropy) (req : Fields) : Outcome := do
  let issuer ← liftValue (IssuerId.ofString (← req.string "issuer"))
  let alg ← algorithmOf (← req.string "algorithm")
  let (first, e1) := SigningKey.generate issuer alg entropy
  let (second, _) := SigningKey.generate issuer alg e1
  let k ← first.mapError Failure.ofKey
  let k2 ← second.mapError Failure.ofKey
  let reloaded := SigningKey.ofSecretHex issuer alg k.secretKeyHex none
  let sameAs (f : SigningKey → String) : Bool :=
    match reloaded with
    | .ok r => f r == f k
    | .error _ => false
  let debug := k.debugText.toList
  .ok (Json.object
    [("algorithm", .str alg.name), ("issuer", .str issuer.val),
     ("secret_hex_len", Json.ofNat k.secretKeyHex.length),
     ("public_key_len", Json.ofNat k.publicKey.length),
     ("kid_is_thumbprint", .bool (k.kid.val == k.publicJwk.thumbprint)),
     ("reload_same_public", .bool (sameAs SigningKey.publicKeyHex)),
     ("reload_same_kid", .bool (sameAs fun r => r.kid.val)),
     ("check_own_public", .bool ((k.checkPublicHex k.publicKeyHex).toBool)),
     ("signature_len", Json.ofNat (k.sign "attest".toUTF8.toList).length),
     ("distinct_from_second", .bool (k.secretKeyHex != k2.secretKeyHex)),
     ("debug_hides_secret", .bool !(occursIn k.secretKeyHex.toList debug)),
     ("debug_has_public_prefix", .bool (occursIn (k.publicKeyHex.toList.take 8) debug)),
     ("jwk_kty", .str k.publicJwk.kty), ("jwk_has_y", .bool k.publicJwk.y.isSome)])

/-- Whether a credential identifier is a random (version 4) one written as a URN. -/
def isRandomUrn (c : CredentialId) : Bool :=
  c.uuid.isRandom && c.urn.startsWith "urn:uuid:"

/-- `new_credential_id`: make fresh credential identifiers and report what
holds of them. -/
def newCredentialIdRequest (entropy : Entropy) : Outcome :=
  let (b1, e1) := entropy.take 16
  let (b2, _) := e1.take 16
  let c1 := CredentialId.ofRandomBytes b1
  let c2 := CredentialId.ofRandomBytes b2
  let roundtrip :=
    match CredentialId.parse c1.urn with
    | .ok c => c.urn == c1.urn
    | .error _ => false
  .ok (Json.object
    [("new_is_v4_urn", .bool (isRandomUrn c1)), ("default_is_v4_urn", .bool (isRandomUrn c2)),
     ("distinct", .bool (c1.urn != c2.urn)), ("display_is_urn", .bool (c1.urn.startsWith "urn:uuid:")),
     ("roundtrip", .bool roundtrip)])

end Api

end Attest
