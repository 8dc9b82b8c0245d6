import Attest.Command.Keygen

/-!
# Listing templates and publishing keys

`templates` prints one block per template of a vault, in type order: the
type name, then indented lines for the subject field, the claim namespace,
the required fields (always, possibly empty), and, when set, the optional
fields with their defaults as JSON, the validity, whether unknown fields
pass through, and whether JSON Schema rules apply.

`jwks` prints the public keys of a vault, or of one issuer, as an indented
JWK Set.
-/

namespace Attest

/-- The arguments of `templates`. -/
structure TemplatesArgs where
  config : String
  deriving Repr

/-- The arguments of `jwks`. -/
structure JwksArgs where
  config : String
  issuer : Option String
  deriving Repr

/-- The configuration option of `templates` and `jwks`. -/
def configOption : OptionSpec :=
  { long := "config", short := some 'c', action := .value "CONFIG", required := true,
    help := "Vault configuration (YAML or JSON)", order := 0, check := nonEmptyPath }

/-- The options of `templates`. -/
def templatesOptions : List OptionSpec := [configOption]

/-- The options of `jwks`. -/
def jwksOptions : List OptionSpec :=
  [configOption,
   { long := "issuer", action := .value "ISSUER", help := "Only keys of this issuer", order := 1 }]

/-- The arguments of `templates` from the options given. -/
def TemplatesArgs.ofMatches (g : Matches) : TemplatesArgs := ⟨(g.value? "config").getD ""⟩

/-- The arguments of `jwks` from the options given. -/
def JwksArgs.ofMatches (g : Matches) : JwksArgs := ⟨(g.value? "config").getD "", g.value? "issuer"⟩

/-- The block that describes a template. -/
def Template.describe (t : Template) : String :=
  let required := t.required.map fun (f, ty) => f ++ ":" ++ ty.name
  let optional := t.optional.map fun (f, o) => f ++ ":" ++ o.fieldType.name ++ "=" ++ o.default.compact
  t.typeName ++ "\n  subject:   " ++ t.subjectField ++ "\n  namespace: " ++ ".".intercalate t.claimPath ++
    "\n  required:  " ++ ", ".intercalate required ++
    (if optional.isEmpty then "" else "\n  optional:  " ++ ", ".intercalate optional) ++
    (match t.validitySecs with
      | some secs => "\n  validity:  " ++ toString secs ++ "s"
      | none => "") ++
    (if t.allowUnknownFields then "\n  unknown fields pass through" else "") ++
    (if t.rules.isSome then "\n  rules:     JSON Schema" else "")

namespace Command

/-- `templates`: describe every template of a vault, in type order. -/
def templates {m : Type → Type} [Monad m] [Host m] (args : TemplatesArgs) :
    ExceptT Fault m Nat := do
  let vault ← loadVault args.config
  vault.catalogue.typeNames.forM fun name =>
    match vault.catalogue.resolve name with
    | some t => say t.describe
    | none => pure ()
  pure 0

/-- `jwks`: print the JWK Set of a vault, or of one issuer. -/
def jwks {m : Type → Type} [Monad m] [Host m] (args : JwksArgs) : ExceptT Fault m Nat := do
  let vault ← loadVault args.config
  let issuer ← match args.issuer with
    | none => pure none
    | some text =>
      match IssuerId.ofString text with
      | .ok i => pure (some i)
      | .error e => throw ⟨["invalid --issuer", e.message]⟩
  say (Json.pretty (vault.jwks issuer).toJson)
  pure 0

end Command

end Attest
