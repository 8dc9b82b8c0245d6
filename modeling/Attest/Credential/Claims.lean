import Attest.Credential.Template
import Attest.Timestamp
import Attest.Identity

/-!
# Claims

A subject record (untyped fields) and a template give the claims of one
credential.  A claim set that is built is complete and type-correct for its
template; there are no partial claim sets.

The checks come in a fixed order, and the first failure is the answer:

1. a `jti` in the record must be a `urn:uuid:` URN or a bare UUID;
2. every required field (in name order) must be present and coerce;
3. every optional field (in name order) that is present must coerce, and an
   absent one takes its default;
4. an undeclared field (in name order, `jti` and nulls aside) is refused
   unless the template allows them, and then it may not hold a fractional
   number anywhere;
5. the custom claims must satisfy the template's rules;
6. the subject is the subject field's claim: a string as it is, any other
   value as compact JSON.

`null` counts as absent for every field.

The payload holds the registered claims `iss`, `sub`, `iat`, `nbf` (equal to
`iat`), `exp` (when the template has a validity window), `jti` and `vct`, and
the custom claims nested under the namespace's names.
-/

namespace Attest

/-- The untyped fields of a subject: a map from field names to values, so its fields are in
ascending order of name and no name occurs twice. -/
structure SubjectRecord where
  fields : Json.Members
  sorted : fields.Sorted

namespace SubjectRecord

/-- The record of fields given in any order; of two fields with one name the later wins. -/
def ofMembers (ms : Json.Members) : SubjectRecord :=
  ⟨Json.Members.ofList ms, Json.Members.sorted_ofList ms⟩

/-- The value of a field, `null` counting as absent. -/
def get? (r : SubjectRecord) (field : String) : Option Json :=
  Json.present? (Json.Members.get? r.fields field)

/-- The record with a field set. -/
def set (r : SubjectRecord) (field : String) (value : Json) : SubjectRecord :=
  ⟨Json.Members.insert field value r.fields, r.sorted.insert field value⟩

end SubjectRecord

/-- The claims of one credential. -/
structure ClaimSet where
  issuer : IssuerId
  subject : String
  issuedAt : Timestamp
  expiresAt : Option Timestamp
  credentialId : CredentialId
  credentialType : String
  claimPath : List String
  custom : Json.Members

namespace ClaimSet

/-- The custom claims nested under the names of a namespace. -/
def nest (custom : Json) : List String → Json
  | [] => custom
  | name :: rest => .obj [(name, nest custom rest)]

/-- The payload that is signed. -/
def payload (c : ClaimSet) : Json :=
  let nested := nest (.obj c.custom) (c.claimPath.drop 1)
  Json.object
    ([("iss", .str c.issuer.val), ("sub", .str c.subject),
      ("iat", Json.ofInt c.issuedAt.seconds), ("nbf", Json.ofInt c.issuedAt.seconds)] ++
     (match c.expiresAt with
      | some t => [("exp", Json.ofInt t.seconds)]
      | none => []) ++
     [("jti", .str c.credentialId.urn), ("vct", .str c.credentialType),
      (c.claimPath.headD "", nested)])

/-- A custom claim by field name. -/
def customClaim? (c : ClaimSet) (field : String) : Option Json :=
  Json.Members.get? c.custom field

end ClaimSet

/-- The credential identifier a record gives in `jti`, if any. -/
def recordCredentialId (r : SubjectRecord) : Except IssuanceError (Option CredentialId) :=
  match r.get? credentialIdField with
  | none => .ok none
  | some v =>
    let parsed := match v with
      | .str s =>
        match CredentialId.parse s with
        | .ok c => some c
        | .error _ => none
      | _ => none
    match parsed with
    | some c => .ok (some c)
    | none => .error (.typeMismatch credentialIdField "urn:uuid or UUID" v.compact)

/-- Coerce the required fields. -/
def requiredClaims (t : Template) (r : SubjectRecord) :
    List (String × FieldType) → Except IssuanceError Json.Members
  | [] => .ok []
  | (field, ty) :: rest => do
    let v ← match r.get? field with
      | some v => .ok v
      | none => .error (.missingRequiredField field t.typeName)
    let c ← ty.coerce field v
    let more ← requiredClaims t r rest
    .ok ((field, c) :: more)

/-- Coerce the optional fields that are present; take defaults for the others. -/
def optionalClaims (r : SubjectRecord) :
    List (String × OptionalField) → Except IssuanceError Json.Members
  | [] => .ok []
  | (field, o) :: rest => do
    let c ← match r.get? field with
      | some v => o.fieldType.coerce field v
      | none => .ok o.default
    let more ← optionalClaims r rest
    .ok ((field, c) :: more)

/-- The undeclared fields that pass into the claims. -/
def undeclaredClaims (t : Template) : Json.Members → Except IssuanceError Json.Members
  | [] => .ok []
  | (field, v) :: rest =>
    if t.declares field || field == credentialIdField || v.isNull then undeclaredClaims t rest
    else if !t.allowUnknownFields then .error (.unknownField field t.typeName)
    else
      match Json.firstFloat? v with
      | some _ => .error (.typeMismatch field "integer-only JSON" v.compact)
      | none => do
        let more ← undeclaredClaims t rest
        .ok ((field, v) :: more)

/-- Build the claims of a record at an issuance time; `fresh` is the
credential identifier used when the record gives none. -/
def buildClaims (t : Template) (r : SubjectRecord) (issuer : IssuerId) (issuedAt : Timestamp)
    (fresh : CredentialId) : Except IssuanceError ClaimSet := do
  let given ← recordCredentialId r
  let required ← requiredClaims t r t.required
  let optional ← optionalClaims r t.optional
  let undeclared ← undeclaredClaims t r.fields
  let custom := Json.Members.ofList (required ++ optional ++ undeclared)
  let broken := t.violations (.obj custom)
  if !broken.isEmpty then throw (.ruleViolation t.typeName broken)
  let subject ← match Json.Members.get? custom t.subjectField with
    | some (.str s) => .ok s
    | some other => .ok other.compact
    | none => .error (.missingRequiredField t.subjectField t.typeName)
  .ok ⟨issuer, subject, issuedAt, t.validitySecs.map issuedAt.plusSeconds, given.getD fresh,
    t.typeName, t.claimPath, custom⟩

end Attest
