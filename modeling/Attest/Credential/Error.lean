import Attest.Key.Error

/-!
# Errors of configuration and issuance

Two families: a `ConfigError` stops a vault from being built, so it never
meets issuance; an `IssuanceError` fails one issuance, and a batch records it
and carries on.
-/

namespace Attest

/-- A malformed key or template configuration. -/
inductive ConfigError where
  | key (e : KeyError)
  | keySource (issuer : String)
  | missingKeyEnv (issuer var : String)
  | duplicateTemplate (name : String)
  | degenerateTemplate (name : String)
  | overlappingField (template field : String)
  | invalidSubjectField (template field : String)
  | reservedField (template field : String)
  | invalidNamespace (template reason : String)
  | invalidDefault (template field reason : String)
  | invalidRules (template reason : String)
  | parse (text : String)

namespace ConfigError

/-- The message of a configuration error. -/
def message : ConfigError → String
  | .key e => "key configuration: " ++ e.message
  | .keySource issuer =>
    "key for issuer " ++ Text.quoted issuer ++
      " must set exactly one of private_key or private_key_env"
  | .missingKeyEnv issuer var =>
    "key for issuer " ++ Text.quoted issuer ++ ": environment variable " ++ var ++ " is not set"
  | .duplicateTemplate name => "duplicate credential template type " ++ Text.quoted name
  | .degenerateTemplate name => "template " ++ Text.quoted name ++ " declares no fields"
  | .overlappingField t f =>
    "template " ++ Text.quoted t ++ ": field " ++ Text.quoted f ++
      " is declared both required and optional"
  | .invalidSubjectField t f =>
    "template " ++ Text.quoted t ++ ": subject field " ++ Text.quoted f ++
      " must be a declared field"
  | .reservedField t f =>
    "template " ++ Text.quoted t ++ ": field name " ++ Text.quoted f ++ " is reserved"
  | .invalidNamespace t reason =>
    "template " ++ Text.quoted t ++ ": invalid claim namespace: " ++ reason
  | .invalidDefault t f reason =>
    "template " ++ Text.quoted t ++ ": default for field " ++ Text.quoted f ++
      " is invalid: " ++ reason
  | .invalidRules t reason =>
    "template " ++ Text.quoted t ++ ": invalid validation rules: " ++ reason
  | .parse text => "configuration parse error: " ++ text

/-- The kind name of a configuration error: `ConfigError.<Variant>`, and for a
key error `ConfigError.Key.<Variant>`. -/
def kind : ConfigError → String
  | .key e => "ConfigError.Key." ++ e.variant
  | .keySource .. => "ConfigError.KeySource"
  | .missingKeyEnv .. => "ConfigError.MissingKeyEnv"
  | .duplicateTemplate .. => "ConfigError.DuplicateTemplate"
  | .degenerateTemplate .. => "ConfigError.DegenerateTemplate"
  | .overlappingField .. => "ConfigError.OverlappingField"
  | .invalidSubjectField .. => "ConfigError.InvalidSubjectField"
  | .reservedField .. => "ConfigError.ReservedField"
  | .invalidNamespace .. => "ConfigError.InvalidNamespace"
  | .invalidDefault .. => "ConfigError.InvalidDefault"
  | .invalidRules .. => "ConfigError.InvalidRules"
  | .parse .. => "ConfigError.Parse"

end ConfigError

/-- A failure of one issuance. -/
inductive IssuanceError where
  | unknownCredentialType (name : String)
  | missingRequiredField (field template : String)
  | typeMismatch (field expected actual : String)
  | unknownField (field template : String)
  | ruleViolation (template : String) (violations : List String)
  | noSigningKey (issuer : String)
  | signingFailure (text : String)
  | encoding (text : String)

namespace IssuanceError

/-- The message of an issuance error. -/
def message : IssuanceError → String
  | .unknownCredentialType name => "unknown credential type " ++ Text.quoted name
  | .missingRequiredField f t =>
    "missing required field " ++ Text.quoted f ++ " for credential type " ++ Text.quoted t
  | .typeMismatch f expected actual =>
    "field " ++ Text.quoted f ++ ": expected " ++ expected ++ ", got " ++ actual
  | .unknownField f t =>
    "field " ++ Text.quoted f ++ " is not declared by credential type " ++ Text.quoted t
  | .ruleViolation t vs =>
    "credential type " ++ Text.quoted t ++ " rules violated: " ++ "; ".intercalate vs
  | .noSigningKey issuer => "no signing key for issuer " ++ Text.quoted issuer
  | .signingFailure text => "signing failed: " ++ text
  | .encoding text => "claim encoding failed: " ++ text

/-- The variant name of an issuance error. -/
def variant : IssuanceError → String
  | .unknownCredentialType .. => "UnknownCredentialType"
  | .missingRequiredField .. => "MissingRequiredField"
  | .typeMismatch .. => "TypeMismatch"
  | .unknownField .. => "UnknownField"
  | .ruleViolation .. => "RuleViolation"
  | .noSigningKey .. => "NoSigningKey"
  | .signingFailure .. => "SigningFailure"
  | .encoding .. => "Encoding"

/-- The short name used in logs and batch reports. -/
def shortName : IssuanceError → String
  | .unknownCredentialType .. => "unknown_credential_type"
  | .missingRequiredField .. => "missing_required_field"
  | .typeMismatch .. => "type_mismatch"
  | .unknownField .. => "unknown_field"
  | .ruleViolation .. => "rule_violation"
  | .noSigningKey .. => "no_signing_key"
  | .signingFailure .. => "signing_failure"
  | .encoding .. => "encoding"

/-- A canonical-form failure while encoding claims. -/
def ofCanonical (e : CanonicalError) : IssuanceError := .encoding e.message

/-- A key failure while signing. -/
def ofKey : KeyError → IssuanceError
  | .encoding e => .encoding e.message
  | other => .signingFailure other.message

end IssuanceError

end Attest
