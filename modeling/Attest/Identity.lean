import Attest.ValueError
import Attest.Text.Blank
import Attest.Decode.Basic

/-!
# Identifiers

An issuer and a signing key are named by *token-like* identifiers: non-empty
texts without blanks around them and without control characters.  A
credential is named by a UUID, written as a `urn:uuid:` URN.

Each identifier type carries the proof that its text passed the check, so an
identifier that exists is well formed.
-/

namespace Attest

/-- The first rule a token-like identifier breaks, if any. -/
def tokenFault? (id : String) : Option IdentifierFault :=
  if id.isEmpty then some .empty
  else if Text.trim id ≠ id then some (.surroundingBlank id)
  else if id.toList.any Text.isControl then some (.controlCharacter id)
  else none

/-- The identity of an issuing authority, placed in the `iss` claim. -/
structure IssuerId where
  val : String
  wellFormed : tokenFault? val = none

/-- The identifier of a signing key, placed in the token header `kid`. -/
structure KeyId where
  val : String
  wellFormed : tokenFault? val = none

instance : DecidableEq IssuerId := fun a b =>
  if h : a.val = b.val then isTrue (by cases a; cases b; simp_all)
  else isFalse (fun e => h (e ▸ rfl))

instance : DecidableEq KeyId := fun a b =>
  if h : a.val = b.val then isTrue (by cases a; cases b; simp_all)
  else isFalse (fun e => h (e ▸ rfl))

/-- Check and wrap an issuer identity. -/
def IssuerId.ofString (id : String) : Except ValueError IssuerId :=
  match h : tokenFault? id with
  | none => .ok ⟨id, h⟩
  | some f => .error (.invalidIdentifier .issuer f)

/-- Check and wrap a key identifier. -/
def KeyId.ofString (id : String) : Except ValueError KeyId :=
  match h : tokenFault? id with
  | none => .ok ⟨id, h⟩
  | some f => .error (.invalidIdentifier .key f)

/-- The identifier of an issued credential, placed in the `jti` claim. -/
structure CredentialId where
  uuid : Uuid
  deriving DecidableEq, Repr

/-- The URN form, `urn:uuid:` and the lowercase hyphenated UUID. -/
def CredentialId.urn (c : CredentialId) : String := c.uuid.urn

/-- Read a credential id: one leading `urn:uuid:` is removed, and the rest is
read as a UUID in any of its forms. -/
def CredentialId.parse (s : String) : Except ValueError CredentialId :=
  let raw := if s.startsWith "urn:uuid:" then String.ofList (s.toList.drop 9) else s
  match Uuid.parse raw with
  | .ok u => .ok ⟨u⟩
  | .error e => .error (.invalidIdentifier .credential (.notUuid s e))

/-- A fresh credential id made of sixteen random bytes. -/
def CredentialId.ofRandomBytes (bytes : Bytes) : CredentialId := ⟨Uuid.ofRandomBytes bytes⟩

/-- Read a text from a document and check it; a refused text is reported
with the identifier's own message. -/
def decodeChecked {α : Type} (check : String → Except ValueError α)
    (path : List Decode.PathStep) (node : Decode.Doc) : Decode.Result α := do
  let s ← Decode.string path node
  (check s).mapError fun e => Decode.Error.plain e.message

/-- Read an issuer identity from a document. -/
def IssuerId.decode : List Decode.PathStep → Decode.Doc → Decode.Result IssuerId :=
  decodeChecked IssuerId.ofString

/-- Read a key identifier from a document. -/
def KeyId.decode : List Decode.PathStep → Decode.Doc → Decode.Result KeyId :=
  decodeChecked KeyId.ofString

end Attest
