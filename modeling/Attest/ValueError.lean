import Attest.Uuid
import Attest.Calendar.Parse
import Attest.Text.Quoted

/-!
# Errors of the basic values

Identifiers, timestamps and hexadecimal byte strings are checked when they are
made.  `ValueError` records which check failed and on what text, and
`ValueError.message` words it.
-/

namespace Attest

/-- The kinds of identifier. -/
inductive IdentifierKind where
  | issuer
  | key
  | credential
  deriving DecidableEq, Repr

/-- How an identifier kind is named in messages. -/
def IdentifierKind.name : IdentifierKind → String
  | .issuer => "issuer id"
  | .key => "key id"
  | .credential => "credential id"

/-- Why a text is no identifier. -/
inductive IdentifierFault where
  | empty
  | surroundingBlank (id : String)
  | controlCharacter (id : String)
  | notUuid (id : String) (e : Uuid.ParseError)
  deriving DecidableEq, Repr

/-- The reason given for an identifier fault. -/
def IdentifierFault.reason : IdentifierFault → String
  | .empty => "must not be empty"
  | .surroundingBlank id => "must not have surrounding whitespace: " ++ Text.quoted id
  | .controlCharacter id => "must not contain control characters: " ++ Text.quoted id
  | .notUuid id e => Text.quoted id ++ " is not a UUID or urn:uuid: URN: " ++ e.message

/-- Why a text is no timestamp. -/
inductive TimestampFault where
  | notUtc (text : String)
  | unreadable (text : String) (e : Calendar.ParseError)
  deriving DecidableEq, Repr

/-- The reason given for a timestamp fault. -/
def TimestampFault.reason : TimestampFault → String
  | .notUtc s => "timestamp must use Z suffix (UTC only), got: " ++ Text.quoted s
  | .unreadable s e => "invalid RFC 3339 timestamp " ++ Text.quoted s ++ ": " ++ e.message

/-- A failed check of a basic value. -/
inductive ValueError where
  | invalidIdentifier (kind : IdentifierKind) (fault : IdentifierFault)
  | invalidTimestamp (fault : TimestampFault)
  | decode (e : Hex.DecodeError)
  deriving DecidableEq, Repr

/-- The message of a basic-value error. -/
def ValueError.message : ValueError → String
  | .invalidIdentifier kind fault => "invalid " ++ kind.name ++ ": " ++ fault.reason
  | .invalidTimestamp fault => "invalid timestamp: " ++ fault.reason
  | .decode e => "decode error: " ++ e.message

end Attest
