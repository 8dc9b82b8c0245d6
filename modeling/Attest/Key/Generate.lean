import Attest.Key.SigningKey
import Attest.Entropy

/-!
# Fresh signing keys

An Ed25519 key is 32 random bytes.  A P-256 key is a random scalar in
`[1, n)`: 32-byte draws are read as big-endian numbers until one falls in
that range.  A draw misses with probability below `2⁻³²`, so a bound of
sixteen draws is never reached in practice; past it the last draw is folded
into the range.
-/

namespace Attest

namespace KeyMaterial

/-- A random P-256 scalar, with at most `fuel` further draws. -/
def randomScalar (e : Entropy) : Nat → Nat × Entropy
  | 0 =>
    let (bytes, e') := e.take 32
    (Modular.ofBigEndian bytes % (P256.groupOrder - 1) + 1, e')
  | fuel + 1 =>
    let (bytes, e') := e.take 32
    let d := Modular.ofBigEndian bytes
    if d = 0 ∨ d ≥ P256.groupOrder then randomScalar e' fuel else (d, e')

/-- Random key material of an algorithm. -/
def random (alg : Algorithm) (e : Entropy) : KeyMaterial × Entropy :=
  match alg with
  | .edDsa =>
    let (seed, e') := e.take 32
    (.ed25519 seed, e')
  | .es256 =>
    let (d, e') := randomScalar e 16
    (.p256 d, e')

end KeyMaterial

namespace SigningKey

/-- A fresh key for an issuer, its key id the thumbprint of its public JWK. -/
def generate (issuer : IssuerId) (alg : Algorithm) (e : Entropy) :
    Except KeyError SigningKey × Entropy :=
  let (m, e') := KeyMaterial.random alg e
  (assemble issuer m none, e')

end SigningKey

end Attest
