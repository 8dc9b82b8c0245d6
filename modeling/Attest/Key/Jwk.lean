import Attest.Canonical
import Attest.Digest.Sha256
import Attest.Encoding.Base64Url
import Attest.Decode.Record

/-!
# JSON Web Keys

The public half of a signing key as a JWK (RFC 7517): key type, curve,
coordinates, and optionally algorithm, use and key id.  Its RFC 7638
thumbprint hashes the canonical JSON of the required members only
(`crv`, `kty`, `x` and, for EC keys, `y`) with SHA-256 and writes the digest
in base64url.
-/

namespace Attest

/-- A public JSON Web Key. -/
structure Jwk where
  kty : String
  crv : String
  x : String
  y : Option String
  alg : Option String
  keyUse : Option String
  kid : Option String
  deriving DecidableEq, Repr

namespace Jwk

/-- The members written for a JWK, in declaration order, absent options left out. -/
def toJson (k : Jwk) : Json :=
  let opt (name : String) (v : Option String) : List (String × Json) :=
    match v with
    | some s => [(name, .str s)]
    | none => []
  .obj ([("kty", .str k.kty), ("crv", .str k.crv), ("x", .str k.x)] ++ opt "y" k.y ++
    opt "alg" k.alg ++ opt "use" k.keyUse ++ opt "kid" k.kid)

/-- Read a JWK from a document: `kty`, `crv` and `x` are required strings,
`y`, `alg`, `use` and `kid` optional ones; other members are ignored. -/
def decode (path : List Decode.PathStep) (node : Decode.Doc) : Decode.Result Jwk := do
  let opt (p : List Decode.PathStep) (d : Decode.Doc) := Decode.optional p (Decode.string p) d
  let found ← Decode.record "Jwk"
    [.required "kty" Decode.string, .required "crv" Decode.string, .required "x" Decode.string,
     .withDefault "y" opt, .withDefault "alg" opt, .withDefault "use" opt,
     .withDefault "kid" opt] true path node
  let kty ← found.need "kty" Decode.string
  let crv ← found.need "crv" Decode.string
  let x ← found.need "x" Decode.string
  let y ← found.getD "y" opt none
  let alg ← found.getD "alg" opt none
  let keyUse ← found.getD "use" opt none
  let kid ← found.getD "kid" opt none
  .ok ⟨kty, crv, x, y, alg, keyUse, kid⟩

/-- The RFC 7638 thumbprint. -/
def thumbprint (k : Jwk) : String :=
  let required : List (String × Json) :=
    [("crv", .str k.crv), ("kty", .str k.kty), ("x", .str k.x)] ++
      (match k.y with
       | some y => [("y", .str y)]
       | none => [])
  Base64Url.encode (Sha256.hash (Json.canonicalText (.obj required)).toUTF8.toList)

end Jwk

/-- A JWK Set. -/
structure JwkSet where
  keys : List Jwk
  deriving Repr

/-- The first key whose id is exactly `kid`. -/
def JwkSet.find? (s : JwkSet) (kid : String) : Option Jwk := s.keys.find? (·.kid == some kid)

/-- The JSON of a key set: `{"keys": [...]}`. -/
def JwkSet.toJson (s : JwkSet) : Json := .obj [("keys", .arr (s.keys.map Jwk.toJson))]

end Attest
