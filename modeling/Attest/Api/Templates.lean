import Attest.Api.Keys
import Attest.Credential.Template
import Attest.Credential.KeyConfig

/-!
# Requests about fields and templates

Coercing a value to a field type, checking a template, and gathering
templates into a catalogue.
-/

namespace Attest

namespace Api

/-- A configuration error as an answer. -/
def Failure.ofConfig (e : ConfigError) : Failure := ⟨e.kind, e.message⟩

/-- An issuance error as an answer. -/
def Failure.ofIssuance (e : IssuanceError) : Failure := ⟨"IssuanceError." ++ e.variant, e.message⟩

/-- Decode a JSON value with a document decoder. -/
def decodeJson {α : Type} (decode : List Decode.PathStep → Decode.Doc → Decode.Result α)
    (v : Json) : Except Failure α :=
  (decode [] (.json v)).mapError Failure.ofDecode

/-- `coerce`: coerce a value to a field type. -/
def coerceRequest (req : Fields) : Outcome := do
  let ty ← decodeJson FieldType.decode (← req.raw "type")
  let field ← match ← req.string? "field" with
    | some f => .ok f
    | none => .ok "f"
  let value ← req.raw "value"
  let coerced ← (ty.coerce field value).mapError Failure.ofIssuance
  if req.flag "extras" then
    .ok (Json.object [("value", coerced), ("type_display", .str ty.name),
      ("type_serialized", .str ty.name)])
  else .ok coerced

/-- `template`: check a template configuration, and optionally ask which
fields it declares and how instances fare against its rules. -/
def templateRequest (req : Fields) : Outcome := do
  let config ← decodeJson TemplateConfig.decode (← req.raw "config")
  let t ← (Template.ofConfig config).mapError Failure.ofConfig
  let declares := match req.get? "declares" with
    | some (.arr names) => [("declares", Json.arr (names.map fun n =>
        match n with
        | .str s => .bool (t.declares s)
        | _ => .bool false))]
    | _ => []
  let checked := match req.get? "validate" with
    | some (.arr instances) => [("violations", Json.arr (instances.map fun inst =>
        match t.rules with
        | some _ => strings (t.violations inst)
        | none => .null))]
    | _ => []
  let debug := if req.flag "debug" then [("debug", Json.str t.debugText)] else []
  match t.toJson with
  | .obj ms => .ok (Json.object (ms ++ declares ++ checked ++ debug))
  | other => .ok other

/-- Decode every configuration of a list, stopping at the first failure. -/
def templateConfigs (req : Fields) : Except Failure (List TemplateConfig) := do
  match ← req.raw "templates" with
  | .arr items => items.mapM (decodeJson TemplateConfig.decode)
  | _ => .error (badInput "templates must be an array")

/-- `catalogue`: gather templates, and resolve type names in the result. -/
def catalogueRequest (req : Fields) : Outcome := do
  let configs ← templateConfigs req
  let c ← (Catalogue.ofConfigs configs).mapError Failure.ofConfig
  let resolved := match req.get? "resolve" with
    | some (.arr names) => names.map fun n =>
        match n with
        | .str s => ((c.resolve s).map Template.toJson).getD .null
        | _ => .null
    | _ => []
  let equal :=
    if req.flag "check_equal" then
      [("equal", Json.arr (c.typeNames.map fun name =>
        let first := c.resolve name
        let rebuilt := (configs.find? (·.typeName == name)).bind fun cfg =>
          match Template.ofConfig cfg with
          | .ok t => some t
          | .error _ => none
        Json.object [("type", .str name), ("stable", .bool (first == c.resolve name)),
          ("equals_rebuilt", .bool (first.isSome && first == rebuilt))]))]
    else []
  .ok (Json.object ([("type_names", strings c.typeNames), ("len", Json.ofNat c.size),
    ("is_empty", .bool (c.size == 0)), ("resolved", .arr resolved)] ++ equal))

/-- The variables of an `env` member: text values by name. -/
def environment (req : Fields) : Except Failure (List (String × String)) :=
  match req.get? "env" with
  | none => .ok []
  | some (.obj ms) => ms.mapM fun (k, v) =>
    match v with
    | .str s => .ok (k, s)
    | _ => .error (badInput "env values must be strings")
  | some _ => .error (badInput "env must be an object")

/-- Whether a variable can be set in a process environment: its name is not
empty and holds neither `=` nor NUL, and its value holds no NUL. -/
def settable (entry : String × String) : Bool :=
  !entry.1.isEmpty && !entry.1.contains '=' && !entry.1.contains (Char.ofNat 0) &&
    !entry.2.contains (Char.ofNat 0)

/-- The variables of an `env` member as a process environment holds them:
those that cannot be set are left out, so reading them finds nothing. -/
def processEnvironment (req : Fields) : Except Failure (List (String × String)) :=
  (environment req).map (·.filter settable)

/-- `key_config`: read a key configuration and load its key. -/
def keyConfigRequest (req : Fields) : Outcome := do
  let config ← decodeJson KeyConfig.decode (← req.raw "config")
  let env ← if req.flag "process_env" then processEnvironment req else environment req
  let key ← (config.loadWith fun v => env.lookup v).mapError Failure.ofConfig
  let debug :=
    if req.flag "debug" then
      [("config_debug", Json.str config.debugText), ("key_debug", Json.str key.debugText)]
    else []
  .ok (Json.object (keyFacts key ++ debug))

end Api

end Attest
