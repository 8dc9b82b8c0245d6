import Attest.Curve.Modular
import Attest.Digest.Hmac

/-!
# P-256 and ECDSA

The short Weierstrass curve `y² = x³ - 3x + b` over the NIST prime `p`
(SEC 2, FIPS 186), with points in affine form or the point at infinity.
A secret key is a scalar `d` in `[1, n - 1]`; the public key is `d·G`.

Signatures are ECDSA over SHA-256 with the nonce chosen deterministically by
RFC 6979 (HMAC-SHA-256), written as the 64 bytes `r ‖ s`.  Public keys are
read from SEC1 bytes: compressed (`02`/`03` and `x`), uncompressed (`04`, `x`
and `y`) or compact (`05` and `x`, standing for the point whose `y` is the
smaller of the two roots), coordinates below `p` and the point on the curve.
-/

namespace Attest

namespace P256

open Attest.Modular

/-- The field prime. -/
def fieldPrime : Nat := 0xffffffff00000001000000000000000000000000ffffffffffffffffffffffff

/-- The group order. -/
def groupOrder : Nat := 0xffffffff00000000ffffffffffffffffbce6faada7179e84f3b9cac2fc632551

/-- The curve constant `b`. -/
def curveB : Nat := 0x5ac635d8aa3a93e7b3ebbd55769886bc651d06b0cc53b0f63bce3c3e27d2604b

/-- A point: infinity or affine coordinates. -/
inductive Point where
  | infinity
  | affine (x y : Nat)
  deriving DecidableEq, Repr

/-- The generator `G`. -/
def generator : Point :=
  .affine 0x6b17d1f2e12c4247f8bce6e563a440f277037d812deb33a0f4a13945d898c296
    0x4fe342e2fe1a7f9b8ee7eb4a7c0f9e162bce33576b315ececbb6406837bf51f5

/-- Whether affine coordinates lie on the curve. -/
def onCurve (x y : Nat) : Bool :=
  let m := fieldPrime
  x < m && y < m && y * y % m == (x * x % m * x + 3 * (m - x) + curveB) % m

/-- Doubling. -/
def double : Point → Point
  | .infinity => .infinity
  | .affine x y =>
    let m := fieldPrime
    if y = 0 then .infinity
    else
      let l := (3 * x % m * x + (m - 3)) % m * invPrime (2 * y % m) m % m
      let x3 := subMod (l * l % m) (2 * x % m) m
      .affine x3 (subMod (l * subMod x x3 m % m) y m)

/-- Addition. -/
def add : Point → Point → Point
  | .infinity, q => q
  | p, .infinity => p
  | .affine x1 y1, .affine x2 y2 =>
    let m := fieldPrime
    if x1 = x2 then
      if (y1 + y2) % m = 0 then .infinity else double (.affine x1 y1)
    else
      let l := subMod y2 y1 m * invPrime (subMod x2 x1 m) m % m
      let x3 := subMod (subMod (l * l % m) x1 m) x2 m
      .affine x3 (subMod (l * subMod x1 x3 m % m) y1 m)

/-- `k·P` by double-and-add from the high bit. -/
def mul (k : Nat) (p : Point) : Point :=
  (List.range (Nat.log2 k + 1)).reverse.foldl
    (fun acc i => let d := double acc; if k / Nat.pow 2 i % 2 = 1 then add d p else d) .infinity

/-- The uncompressed SEC1 encoding, 65 bytes (the point at infinity is `00`). -/
def encode : Point → Bytes
  | .infinity => [0]
  | .affine x y => 4 :: toBigEndian 32 x ++ toBigEndian 32 y

/-- The public key of a secret scalar. -/
def publicKey (d : Nat) : Point := mul d generator

/-- A square root modulo `p` (which is `3 mod 4`), if one exists. -/
def sqrt? (a : Nat) : Option Nat :=
  let r := powMod a ((fieldPrime + 1) / 4) fieldPrime
  if r * r % fieldPrime = a % fieldPrime then some r else none

/-- Read SEC1 bytes of a point other than infinity. -/
def decode? (bytes : Bytes) : Option Point :=
  match bytes with
  | tag :: rest =>
    if tag = 4 ∧ rest.length = 64 then
      let x := ofBigEndian (rest.take 32)
      let y := ofBigEndian (rest.drop 32)
      if onCurve x y then some (.affine x y) else none
    else if (tag = 2 ∨ tag = 3) ∧ rest.length = 32 then
      let x := ofBigEndian rest
      if x ≥ fieldPrime then none
      else
        let m := fieldPrime
        (sqrt? ((x * x % m * x + 3 * (m - x) + curveB) % m)).map fun y =>
          let y := if y % 2 = tag.toNat % 2 then y else (m - y) % m
          .affine x y
    else if tag = 5 ∧ rest.length = 32 then
      let x := ofBigEndian rest
      if x ≥ fieldPrime then none
      else
        let m := fieldPrime
        (sqrt? ((x * x % m * x + 3 * (m - x) + curveB) % m)).map fun y =>
          .affine x (min y ((m - y) % m))
    else none
  | [] => none

/-- The RFC 6979 nonce for secret `d` and message hash `h`. -/
def nonce (d : Nat) (h : Bytes) : Nat :=
  let x := toBigEndian 32 d
  let h1 := toBigEndian 32 (ofBigEndian h % groupOrder)
  let k0 := List.replicate 32 (0 : UInt8)
  let v0 := List.replicate 32 (1 : UInt8)
  let k1 := Hmac.sha256 k0 (v0 ++ [0] ++ x ++ h1)
  let v1 := Hmac.sha256 k1 v0
  let k2 := Hmac.sha256 k1 (v1 ++ [1] ++ x ++ h1)
  let v2 := Hmac.sha256 k2 v1
  search 16 k2 v2
where
  /-- Draw candidates until one lies in `[1, n - 1]`. -/
  search : Nat → Bytes → Bytes → Nat
    | 0, _, _ => 1
    | fuel + 1, k, v =>
      let v' := Hmac.sha256 k v
      let t := ofBigEndian v'
      if 1 ≤ t ∧ t < groupOrder then t
      else
        let k' := Hmac.sha256 k (v' ++ [0])
        search fuel k' (Hmac.sha256 k' v')

/-- The ECDSA signature `r ‖ s` of a message under secret scalar `d`. -/
def sign (d : Nat) (msg : Bytes) : Bytes :=
  let h := Sha256.hash msg
  let z := ofBigEndian h
  let k := nonce d h
  let r := match mul k generator with
    | .affine x _ => x % groupOrder
    | .infinity => 0
  let s := invPrime k groupOrder * ((z + r * d) % groupOrder) % groupOrder
  toBigEndian 32 r ++ toBigEndian 32 s

end P256

end Attest
