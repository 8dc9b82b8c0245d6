import Attest.Key.Algorithm
import Attest.ValueError
import Attest.Canonical

/-!
# Key errors

Loading, checking, storing and rotating signing keys can fail in the ways
`KeyError` lists; `KeyError.message` words each.
-/

namespace Attest

/-- Why key material is unusable. -/
inductive KeyFault where
  | empty
  | wrongLength (length : Nat)
  | scalarOutOfRange
  | secretNotHex (e : Hex.DecodeError)
  | publicNotHex (e : Hex.DecodeError)
  deriving DecidableEq, Repr

/-- The reason given for unusable key material. -/
def KeyFault.reason : KeyFault → String
  | .empty => "key material is empty"
  | .wrongLength n => s!"expected 32 bytes, got {n}"
  | .scalarOutOfRange => "scalar is zero or not below the P-256 group order"
  | .secretNotHex e => (ValueError.decode e).message
  | .publicNotHex e => "public key: " ++ (ValueError.decode e).message

/-- A failure of key handling. -/
inductive KeyError where
  | malformed (issuer : String) (algorithm : Algorithm) (fault : KeyFault)
  | publicKeyMismatch (issuer : String)
  | unsupportedAlgorithm (name : String)
  | emptyKeySet
  | duplicateIssuer (issuer : String)
  | unknownIssuer (issuer : String)
  | duplicateKeyId (issuer kid : String)
  | encoding (e : CanonicalError)

/-- The message of a key error. -/
def KeyError.message : KeyError → String
  | .malformed issuer alg fault =>
    "malformed " ++ alg.name ++ " key for issuer " ++ Text.quoted issuer ++ ": " ++ fault.reason
  | .publicKeyMismatch issuer =>
    "public key for issuer " ++ Text.quoted issuer ++ " does not match its private key"
  | .unsupportedAlgorithm name =>
    "unsupported signing algorithm: " ++ Text.quoted name ++ " (expected EdDSA or ES256)"
  | .emptyKeySet => "key store requires at least one signing key"
  | .duplicateIssuer issuer => "duplicate signing key for issuer " ++ Text.quoted issuer
  | .unknownIssuer issuer => "no active key to rotate for issuer " ++ Text.quoted issuer
  | .duplicateKeyId issuer kid =>
    "key id " ++ Text.quoted kid ++ " already used for issuer " ++ Text.quoted issuer
  | .encoding e => "encoding failed: " ++ e.message

/-- The variant name of a key error. -/
def KeyError.variant : KeyError → String
  | .malformed .. => "MalformedKey"
  | .publicKeyMismatch .. => "PublicKeyMismatch"
  | .unsupportedAlgorithm .. => "UnsupportedAlgorithm"
  | .emptyKeySet => "EmptyKeySet"
  | .duplicateIssuer .. => "DuplicateIssuer"
  | .unknownIssuer .. => "UnknownIssuer"
  | .duplicateKeyId .. => "DuplicateKeyId"
  | .encoding .. => "Encoding"

end Attest
