import Attest.Digest.Sha256

/-!
# HMAC-SHA-256

The keyed hash of RFC 2104 over SHA-256: a key longer than a block is hashed
first, then padded with zeros to the 64-byte block, and
`HMAC(K, m) = H((K ⊕ opad) ‖ H((K ⊕ ipad) ‖ m))`.
-/

namespace Attest

namespace Hmac

/-- The key padded to one block. -/
def blockKey (key : Bytes) : Bytes :=
  let k := if key.length > 64 then Sha256.hash key else key
  k ++ List.replicate (64 - k.length) 0

/-- HMAC-SHA-256 of a message. -/
def sha256 (key msg : Bytes) : Bytes :=
  let k := blockKey key
  let inner := Sha256.hash (k.map (· ^^^ 0x36) ++ msg)
  Sha256.hash (k.map (· ^^^ 0x5c) ++ inner)

end Hmac

end Attest
