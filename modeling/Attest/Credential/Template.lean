import Attest.Credential.Field
import Attest.Schema.Rules

/-!
# Credential templates

A template says which fields a credential type's subject records carry:
required fields with their types, optional fields with defaults, the field
that becomes the subject (`sub`), the dotted namespace under which the
custom claims are nested, an optional validity window, whether undeclared
fields pass through, and optional JSON Schema rules on the custom claims.

A `TemplateConfig` is what a configuration document says; `Template.ofConfig`
checks it, so that every check that can fail does so when templates are
loaded and never at issuance:

* at least one field is declared;
* no field is both required and optional;
* no field is named `jti` (a record uses that name for its own credential
  identifier);
* the subject field is declared;
* the namespace is a dotted path of non-empty names without blanks around
  them, and its first name is not a registered claim;
* every default coerces to its field's type;
* the rules are a valid draft 2020-12 schema.

A `Catalogue` holds checked templates under unique type names.
-/

namespace Attest

/-- Claim names that the payload reserves at its top level. -/
def registeredClaims : List String := ["iss", "sub", "aud", "exp", "nbf", "iat", "jti", "vct"]

/-- The record field that carries a credential identifier of the caller's. -/
def credentialIdField : String := "jti"

/-- The namespace of templates that do not give one. -/
def defaultNamespace : String := "vc.credentialSubject"

/-- An optional field as configured: its type and its default. -/
structure OptionalFieldConfig where
  fieldType : FieldType
  default : Json

/-- A template as configured, before checking. -/
structure TemplateConfig where
  typeName : String
  required : List (String × FieldType)
  optional : List (String × OptionalFieldConfig)
  subjectField : String
  claimNamespace : String
  validitySecs : Option Nat
  allowUnknownFields : Bool
  rules : Option Json

namespace OptionalFieldConfig

/-- Read an optional field: `type` and `default` (null when absent). -/
def decode (path : List Decode.PathStep) (node : Decode.Doc) :
    Decode.Result OptionalFieldConfig := do
  let found ← Decode.record "OptionalFieldConfig"
    [.required "type" FieldType.decode, .withDefault "default" Decode.anyValue] false path node
  let fieldType ← found.need "type" FieldType.decode
  let default ← found.getD "default" Decode.anyValue .null
  .ok ⟨fieldType, default⟩

end OptionalFieldConfig

namespace TemplateConfig

/-- Read a template configuration; unknown members are refused. -/
def decode (path : List Decode.PathStep) (node : Decode.Doc) : Decode.Result TemplateConfig := do
  let requiredMap := fun p d => Decode.stringMap p FieldType.decode d
  let optionalMap := fun p d => Decode.stringMap p OptionalFieldConfig.decode d
  let validity := fun p d => Decode.optional p (Decode.u64 p) d
  let rules := fun p d => Decode.optional p (Decode.anyValue p) d
  let found ← Decode.record "TemplateConfig"
    [.required "type_name" Decode.string, .withDefault "required" requiredMap,
     .withDefault "optional" optionalMap, .required "subject_field" Decode.string,
     .withDefault "namespace" Decode.string, .withDefault "validity_secs" validity,
     .withDefault "allow_unknown_fields" Decode.bool, .withDefault "rules" rules] false path node
  let typeName ← found.need "type_name" Decode.string
  let required ← found.getD "required" requiredMap []
  let optional ← found.getD "optional" optionalMap []
  let subjectField ← found.need "subject_field" Decode.string
  let claimNamespace ← found.getD "namespace" Decode.string defaultNamespace
  let validitySecs ← found.getD "validity_secs" validity none
  let allowUnknownFields ← found.getD "allow_unknown_fields" Decode.bool false
  let rulesValue ← found.getD "rules" rules none
  .ok ⟨typeName, required, optional, subjectField, claimNamespace, validitySecs, allowUnknownFields,
    rulesValue⟩

end TemplateConfig

/-- An optional field of a checked template: its type and its coerced default. -/
structure OptionalField where
  fieldType : FieldType
  default : Json
  deriving DecidableEq

/-- A checked credential template. -/
structure Template where
  typeName : String
  required : List (String × FieldType)
  optional : List (String × OptionalField)
  subjectField : String
  claimPath : List String
  validitySecs : Option Nat
  allowUnknownFields : Bool
  rules : Option Json
  deriving DecidableEq

namespace Template

/-- Split a namespace into its names, or say what is wrong with it. -/
def parseNamespace (template ns : String) : Except ConfigError (List String) :=
  let segments := ns.splitOn "."
  if segments.any fun seg => (Text.trim seg).isEmpty || Text.trim seg != seg then
    .error (.invalidNamespace template (Text.quoted ns ++ " must be a dotted path of non-empty names"))
  else
    match segments with
    | first :: _ =>
      if registeredClaims.contains first then
        .error (.invalidNamespace template (Text.quoted first ++ " is a registered claim name"))
      else .ok segments
    | [] => .ok segments

/-- Coerce the defaults of the optional fields, in name order. -/
def coerceDefaults (template : String) :
    List (String × OptionalFieldConfig) → Except ConfigError (List (String × OptionalField))
  | [] => .ok []
  | (field, cfg) :: rest => do
    let default ← (cfg.fieldType.coerce field cfg.default).mapError fun e =>
      ConfigError.invalidDefault template field e.message
    let more ← coerceDefaults template rest
    .ok ((field, ⟨cfg.fieldType, default⟩) :: more)

/-- Check a template configuration. -/
def ofConfig (c : TemplateConfig) : Except ConfigError Template := do
  if c.required.isEmpty && c.optional.isEmpty then throw (.degenerateTemplate c.typeName)
  match c.required.find? fun (f, _) => (c.optional.lookup f).isSome with
  | some (f, _) => throw (.overlappingField c.typeName f)
  | none => pure ()
  match (c.required.map (·.1) ++ c.optional.map (·.1)).find? (· == credentialIdField) with
  | some f => throw (.reservedField c.typeName f)
  | none => pure ()
  if (c.required.lookup c.subjectField).isNone && (c.optional.lookup c.subjectField).isNone then
    throw (.invalidSubjectField c.typeName c.subjectField)
  let claimPath ← parseNamespace c.typeName c.claimNamespace
  let optional ← coerceDefaults c.typeName c.optional
  match c.rules with
  | some schema =>
    match Schema.compileError? schema with
    | some reason => throw (.invalidRules c.typeName reason)
    | none => pure ()
  | none => pure ()
  .ok ⟨c.typeName, c.required, optional, c.subjectField, claimPath, c.validitySecs,
    c.allowUnknownFields, c.rules⟩

/-- Whether a field is declared, required or optional. -/
def declares (t : Template) (field : String) : Bool :=
  (t.required.lookup field).isSome || (t.optional.lookup field).isSome

/-- The violations of the rules by the custom claims, as `pointer: message`. -/
def violations (t : Template) (claims : Json) : List String :=
  match t.rules with
  | some schema => Schema.check schema claims
  | none => []

/-- The summary of a template as JSON. -/
def toJson (t : Template) : Json :=
  Json.object
    [("type_name", .str t.typeName),
     ("required", Json.object (t.required.map fun (f, ty) => (f, .str ty.name))),
     ("optional", Json.object (t.optional.map fun (f, o) =>
        (f, Json.object [("type", .str o.fieldType.name), ("default", o.default)]))),
     ("subject_field", .str t.subjectField),
     ("namespace", .arr (t.claimPath.map .str)),
     ("validity_secs", match t.validitySecs with
        | some n => Json.ofNat n
        | none => .null),
     ("allow_unknown_fields", .bool t.allowUnknownFields),
     ("rules", t.rules.getD .null)]

/-- The debugging text of a template. -/
def debugText (t : Template) : String :=
  let entries (xs : List String) : String := ", ".intercalate xs
  "CredentialTemplate \x7b type_name: " ++ Text.quoted t.typeName ++
    ", required: \x7b" ++ entries (t.required.map fun (f, ty) => Text.quoted f ++ ": " ++ ty.debugName) ++
    "\x7d, optional: \x7b" ++ entries (t.optional.map fun (f, o) =>
      Text.quoted f ++ ": OptionalField \x7b field_type: " ++ o.fieldType.debugName ++ ", default: " ++
        o.default.debugText ++ " \x7d") ++
    "\x7d, subject_field: " ++ Text.quoted t.subjectField ++
    ", namespace: [" ++ entries (t.claimPath.map Text.quoted) ++ "]" ++
    ", validity_secs: " ++ (match t.validitySecs with
      | some n => "Some(" ++ toString n ++ ")"
      | none => "None") ++
    ", allow_unknown_fields: " ++ toString t.allowUnknownFields ++
    ", rules: " ++ (match t.rules with
      | some schema => "Some(Rules \x7b schema: " ++ Json.debugText schema ++ ", .. \x7d)"
      | none => "None") ++ " \x7d"

end Template

/-- Checked templates under unique type names. -/
structure Catalogue where
  templates : List Template

namespace Catalogue

/-- Gather templates, refusing a type name given twice. -/
def ofTemplates (ts : List Template) : Except ConfigError Catalogue :=
  go [] ts
where
  /-- Add templates to those gathered so far. -/
  go : List Template → List Template → Except ConfigError Catalogue
    | acc, [] => .ok ⟨acc.reverse⟩
    | acc, t :: rest =>
      if acc.any (·.typeName == t.typeName) then .error (.duplicateTemplate t.typeName)
      else go (t :: acc) rest

/-- Check template configurations, then gather them. -/
def ofConfigs (cs : List TemplateConfig) : Except ConfigError Catalogue := do
  let ts ← cs.mapM Template.ofConfig
  ofTemplates ts

/-- The template of a type name. -/
def resolve (c : Catalogue) (name : String) : Option Template :=
  c.templates.find? (·.typeName == name)

/-- The type names, sorted. -/
def typeNames (c : Catalogue) : List String :=
  (c.templates.map (·.typeName)).mergeSort (fun a b => decide (a ≤ b))

/-- The number of templates. -/
def size (c : Catalogue) : Nat := c.templates.length

end Catalogue

end Attest
