import Attest.Curve.Modular
import Attest.Digest.Sha512

/-!
# Ed25519

The signature scheme of RFC 8032 over the twisted Edwards curve
`-x² + y² = 1 + d·x²·y²` modulo `p = 2 ^ 255 - 19`.  Points are kept in
extended coordinates `(X : Y : Z : T)` with `x = X / Z`, `y = Y / Z` and
`x·y = T / Z`, where the addition formula is complete, so doubling is addition
of a point to itself.

A secret key is 32 bytes.  Its SHA-512 hash gives the clamped scalar `a` (low
half) and the nonce prefix (high half); the public key is the encoding of
`a·B`.  A signature of `M` is `R ‖ S` with `r = H(prefix ‖ M) mod L`,
`R = r·B`, `k = H(R ‖ A ‖ M) mod L` and `S = r + k·a mod L`.
-/

namespace Attest

namespace Ed25519

open Attest.Modular

/-- The field prime. -/
def fieldPrime : Nat := Nat.pow 2 255 - 19

/-- The order of the base point. -/
def groupOrder : Nat := Nat.pow 2 252 + 27742317777372353535851937790883648493

/-- The curve constant `d = -121665 / 121666`. -/
def curveD : Nat := 37095705934669439343138083508754565189542113879843219016388785533085940283555

/-- A point in extended coordinates. -/
structure Point where
  x : Nat
  y : Nat
  z : Nat
  t : Nat

/-- The neutral point. -/
def neutral : Point := ⟨0, 1, 1, 0⟩

/-- The base point `B`. -/
def base : Point :=
  let x := 15112221349535400772501151409588531511454012693041857206046113283949847762202
  let y := 46316835694926478169428394003475163141307993866256225615783033603165251855960
  ⟨x, y, 1, x * y % fieldPrime⟩

/-- Point addition (complete). -/
def add (p q : Point) : Point :=
  let m := fieldPrime
  let a := subMod p.y p.x m * subMod q.y q.x m % m
  let b := (p.y + p.x) * (q.y + q.x) % m
  let c := p.t * 2 * curveD % m * q.t % m
  let d := p.z * 2 * q.z % m
  let e := subMod b a m
  let f := subMod d c m
  let g := (d + c) % m
  let h := (b + a) % m
  ⟨e * f % m, g * h % m, f * g % m, e * h % m⟩

/-- `k·P` by double-and-add from the high bit. -/
def mul (k : Nat) (p : Point) : Point :=
  (List.range (Nat.log2 k + 1)).reverse.foldl
    (fun acc i => let d := add acc acc; if k / Nat.pow 2 i % 2 = 1 then add d p else d) neutral

/-- The 32-byte encoding: `y` little-endian, the low bit of `x` in the top bit. -/
def encode (p : Point) : Bytes :=
  let zi := invPrime p.z fieldPrime
  let x := p.x * zi % fieldPrime
  let y := p.y * zi % fieldPrime
  toLittleEndian 32 (y + (x % 2) * Nat.pow 2 255)

/-- The clamped scalar of the low half of a hashed secret. -/
def clamp (bytes : Bytes) : Nat :=
  let n := ofLittleEndian (bytes.take 32)
  let n := n - n % 8
  let n := n % Nat.pow 2 254
  n + Nat.pow 2 254

/-- The public key of a 32-byte secret. -/
def publicKey (secret : Bytes) : Bytes :=
  encode (mul (clamp (Sha512.hash secret)) base)

/-- The 64-byte signature of a message. -/
def sign (secret msg : Bytes) : Bytes :=
  let h := Sha512.hash secret
  let a := clamp h
  let pub := encode (mul a base)
  let r := ofLittleEndian (Sha512.hash (h.drop 32 ++ msg)) % groupOrder
  let rEnc := encode (mul r base)
  let k := ofLittleEndian (Sha512.hash (rEnc ++ pub ++ msg)) % groupOrder
  rEnc ++ toLittleEndian 32 ((r + k * a) % groupOrder)

end Ed25519

end Attest
