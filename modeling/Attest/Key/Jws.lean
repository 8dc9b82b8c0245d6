import Attest.Key.SigningKey

/-!
# Compact JWS

A token is `b64(header) . b64(payload) . b64(signature)` (RFC 7515 compact
serialisation, base64url without padding).  The protected header is the
canonical JSON `{"alg": …, "kid": …, "typ": "JWT"}` of the signing key, the
payload is canonical JSON, and the signature covers the ASCII text of the
first two segments joined by a dot.
-/

namespace Attest

namespace Jws

/-- The protected header of a key. -/
def header (k : SigningKey) : Json :=
  .obj [("alg", .str k.algorithm.name), ("kid", .str k.kid.val), ("typ", .str "JWT")]

/-- The token of a canonical payload text. -/
def encodeCompact (k : SigningKey) (payload : String) : String :=
  let signingInput := Base64Url.encode (Json.canonicalText (header k)).toUTF8.toList ++ "." ++
    Base64Url.encode payload.toUTF8.toList
  signingInput ++ "." ++ Base64Url.encode (k.sign signingInput.toUTF8.toList)

/-- The token of a JSON payload, which must have a canonical form. -/
def encodeJson (k : SigningKey) (payload : Json) : Except CanonicalError String :=
  (Json.canonical payload).map (encodeCompact k)

end Jws

end Attest
