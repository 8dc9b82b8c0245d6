import Attest.Encoding.Hex

/-!
# Modular arithmetic and fixed-width integers

Powers and inverses modulo a number, and the conversions between natural
numbers and their fixed-width byte strings, big-endian and little-endian.
-/

namespace Attest

namespace Modular

/-- `b ^ e % m` by repeated squaring. -/
def powMod (b e m : Nat) : Nat :=
  go (Nat.log2 e + 1) (b % m) e 1
where
  /-- Square and multiply, one exponent bit per step. -/
  go : Nat → Nat → Nat → Nat → Nat
    | 0, _, _, acc => acc % m
    | fuel + 1, base, e, acc =>
      if e = 0 then acc % m
      else go fuel (base * base % m) (e / 2) (if e % 2 = 1 then acc * base % m else acc)

/-- The inverse of `a` modulo a prime `p` (zero for zero). -/
def invPrime (a p : Nat) : Nat := powMod a (p - 2) p

/-- `a - b` modulo `m`, for `b < m`. -/
def subMod (a b m : Nat) : Nat := (a + m - b % m) % m

/-- The number of a big-endian byte string. -/
def ofBigEndian (bytes : Bytes) : Nat := bytes.foldl (fun acc b => acc * 256 + b.toNat) 0

/-- The number of a little-endian byte string. -/
def ofLittleEndian (bytes : Bytes) : Nat := ofBigEndian bytes.reverse

/-- The `width`-byte big-endian form of a number below `256 ^ width`. -/
def toBigEndian (width n : Nat) : Bytes :=
  (List.range width).reverse.map fun i => (n / Nat.pow 256 i % 256).toUInt8

/-- The `width`-byte little-endian form of a number below `256 ^ width`. -/
def toLittleEndian (width n : Nat) : Bytes := (toBigEndian width n).reverse

end Modular

end Attest
