import Attest.Digest.Sha256

/-!
# Pseudo-random bytes

Fresh keys and credential identifiers need random bytes.  The program's pure
part draws them from an `Entropy`: a seed, supplied from outside, stretched
by hashing it with a block counter.  Each draw moves the counter on, so no
two draws from one source overlap.
-/

namespace Attest

/-- A seed and the number of blocks drawn from it so far. -/
structure Entropy where
  seed : Bytes
  drawn : Nat

namespace Entropy

/-- A source that has drawn nothing. -/
def ofSeed (seed : Bytes) : Entropy := ⟨seed, 0⟩

/-- The eight big-endian bytes of a counter. -/
def counterBytes (n : Nat) : Bytes :=
  (List.range 8).reverse.map fun i => UInt8.ofNat (n / Nat.pow 2 (8 * i) % 256)

/-- The 32-byte block with a given index. -/
def block (e : Entropy) (index : Nat) : Bytes :=
  Sha256.hash (e.seed ++ counterBytes index)

/-- Draw `n` bytes. -/
def take (e : Entropy) (n : Nat) : Bytes × Entropy :=
  let count := (n + 31) / 32
  let bytes := ((List.range count).flatMap fun i => e.block (e.drawn + i)).take n
  (bytes, { e with drawn := e.drawn + count })

end Entropy

end Attest
