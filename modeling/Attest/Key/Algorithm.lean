import Attest.Text.Blank
import Attest.Decode.Record

/-!
# Signature algorithms

Two algorithms sign tokens, named as in the JOSE `alg` registry: `EdDSA`
(Ed25519) and `ES256` (ECDSA over P-256 with SHA-256).  Both take a 32-byte
secret.  `Algorithm.ofName?` reads a name with blanks around it trimmed and a
few common spellings accepted.
-/

namespace Attest

/-- A signature algorithm. -/
inductive Algorithm where
  | edDsa
  | es256
  deriving DecidableEq, Repr

namespace Algorithm

/-- The JOSE name. -/
def name : Algorithm → String
  | .edDsa => "EdDSA"
  | .es256 => "ES256"

/-- The name of the variant in debugging output. -/
def debugName : Algorithm → String
  | .edDsa => "EdDsa"
  | .es256 => "Es256"

/-- The length of a secret key in bytes. -/
def secretLength (_ : Algorithm) : Nat := 32

/-- Read a name, trimmed: `EdDSA`, `eddsa`, `Ed25519`, `ed25519`, `ES256`,
`es256`, `P-256` or `p256`.  On failure the trimmed name is returned. -/
def ofName? (s : String) : Except String Algorithm :=
  match Text.trim s with
  | "EdDSA" | "eddsa" | "Ed25519" | "ed25519" => .ok .edDsa
  | "ES256" | "es256" | "P-256" | "p256" => .ok .es256
  | other => .error other

/-- Read an algorithm from a document: exactly `EdDSA` or `ES256`. -/
def decode : List Decode.PathStep → Decode.Doc → Decode.Result Algorithm :=
  Decode.variant [("EdDSA", .edDsa), ("ES256", .es256)]

/-- Read an exact JOSE name. -/
def ofJoseName? (s : String) : Option Algorithm :=
  match s with
  | "EdDSA" => some .edDsa
  | "ES256" => some .es256
  | _ => none

end Algorithm

end Attest
