import Attest.Schema.Validate

/-!
# Rules documents

A rules document becomes a validator in three steps, and the first fault
found refuses it:

1. its resources are read and its references checked
   (`Registry.ofRules`): a malformed URI reference, or one that names a
   document that is not at hand;
2. it is validated against the draft 2020-12 meta-schema, and the first
   violation's message is the fault;
3. its keywords are compiled in order (`compileFault?`): references must
   name a schema, and patterns must be valid.

`check` then lists the violations of an instance, each as
`pointer: message`.
-/

namespace Attest

namespace Schema

/-- The fault of a pattern that is not valid, shown with the value given. -/
def notRegex (shown : Json) : String := shown.compact ++ " is not a \"regex\""

/-- The outcome of a compile walk: the first fault found, and the
references already followed. -/
abbrev Walk := Option String × List String

/-- Go on walking unless a fault was found. -/
def Walk.andThen (w : Walk) (next : List String → Walk) : Walk :=
  match w with
  | (some e, s) => (some e, s)
  | (none, s) => next s

/-- Keywords whose one subschema is compiled where they stand. -/
def compiledSingles : List String :=
  ["contains", "items", "not", "propertyNames", "unevaluatedItems", "unevaluatedProperties"]

/-- The first fault met when a schema is compiled, keyword by keyword in
order: a reference that names nothing or names no schema, or a pattern that
is not valid.  References are followed once each, and definitions are only
compiled when referred to.  When `additionalProperties` is present next to
`patternProperties` it checks the patterns first; when it is `false` or a
schema it also compiles the schemas of `properties`, and those two keywords
are then skipped.  `if` compiles `then` and `else`, which are not compiled
without it. -/
def compileFault? (cx : Context) : Nat → List String → Scope → Json → Walk
  | 0, seen, _, _ => (none, seen)
  | fuel + 1, seen, scope, .obj ms =>
    let scope := scope.within ms
    let sub := fun (s : List String) (v : Json) => compileFault? cx fuel s scope v
    let each := fun (s : List String) (vs : List Json) =>
      vs.foldl (fun (w : Walk) v => w.andThen (sub · v)) (none, s)
    let patterns := fun (s : List String) (pats : Json.Members) =>
      pats.foldl (fun (w : Walk) (p, v) =>
        w.andThen fun s => if Regex.isValid p then sub s v else (some (notRegex v), s)) (none, s)
    let takesOver := additionalTakesOver ms
    let member := fun (name : String) => Json.Members.get? ms name
    ms.foldl (fun (acc : Walk) (k, v) =>
      acc.andThen fun s =>
        if k = "$ref" || k = "$dynamicRef" then
          match v with
          | .str ref =>
            match cx.registry.lookup scope.base ref with
            | .error reason => (some reason, s)
            | .ok t =>
              match t.schema with
              | .obj _ | .bool _ =>
                if s.contains t.key then (none, s)
                else compileFault? cx fuel (t.key :: s) (cx.enter scope ref t []) t.schema
              | other => (some (other.compact ++ " is not of types \"boolean\", \"object\""), s)
          | _ => (none, s)
        else if !scope.active k then (none, s)
        else if k = "pattern" then
          match v with
          | .str p => if Regex.isValid p then (none, s) else (some (notRegex v), s)
          | _ => (none, s)
        else if k = "additionalProperties" then
          let checked := match siblingMembers ms "patternProperties" with
            | some pats => patterns s pats
            | none => (none, s)
          if takesOver then
            checked.andThen fun s =>
              (each s (((siblingMembers ms "properties").getD []).map (·.2))).andThen (sub · v)
          else checked
        else if k = "patternProperties" then
          if takesOver then (none, s) else patterns s ((v.members?).getD [])
        else if k = "properties" then
          if takesOver then (none, s) else each s (((v.members?).getD []).map (·.2))
        else if k = "if" then
          each s (v :: ((member "then").toList ++ (member "else").toList))
        else if k = "dependentSchemas" then each s (((v.members?).getD []).map (·.2))
        else if k = "dependencies" then
          each s ((((v.members?).getD []).map (·.2)).filter fun d => (d.items?).isNone)
        else if compiledSingles.contains k then sub s v
        else if listSubschemaKeywords.contains k then each s ((v.items?).getD [])
        else (none, s)) (none, seen)
  | _ + 1, seen, _, _ => (none, seen)

/-- The URI of the draft 2020-12 meta-schema. -/
def metaBase : Uri := (documentBase Meta.schema).toOption.getD defaultBase

/-- The violations of a rules document against the meta-schema. -/
def metaViolations (rules : Json) : List Violation :=
  violations ⟨metaRegistry, metaBase.render⟩ evaluationFuel (Scope.ofBase metaBase allVocabularies) Meta.schema
    rules []

/-- Why a rules document cannot be used, if it cannot. -/
def compileError? (rules : Json) : Option String :=
  match Registry.ofRules rules with
  | .error reason => some reason
  | .ok registry =>
    match metaViolations rules with
    | v :: _ => some v.message
    | [] =>
      match documentBase rules with
      | .error reason => some reason
      | .ok base =>
        (compileFault? ⟨registry, base.render⟩ evaluationFuel [] (Scope.ofBase base (registry.dialect rules))
          rules).1

/-- The violations of an instance against a rules document, as texts. -/
def check (rules : Json) (inst : Json) : List String :=
  match Registry.ofRules rules, documentBase rules with
  | .ok registry, .ok base =>
    (violations ⟨registry, base.render⟩ evaluationFuel (Scope.ofBase base (registry.dialect rules)) rules
      inst []).map
      Violation.text
  | _, _ => []

end Schema

end Attest
