import Attest.Schema.Registry
import Attest.Regex
import Attest.Json.Describe

/-!
# JSON Schema evaluation (draft 2020-12)

A schema is a JSON value: `true` accepts everything, `false` nothing, and an
object is a conjunction of keywords.  `violations` lists every way an
instance fails a schema, each with the JSON Pointer of the failing part of
the instance and a message.

Keywords are applied in the order of their names, those of the vocabularies
the rules turn on (`Vocabulary`); references are always followed.  Three
groups of keywords act together: `additionalProperties`, when it is `false`
or a schema, also does the work of `properties` and `patternProperties`
(each property is checked against its declared schema, against the schemas
of the patterns it matches, and only when neither names it, against the
additional schema); `items` starts after the `prefixItems`; `contains`
counts matches against `minContains` and `maxContains`.

`unevaluatedProperties` and `unevaluatedItems` look at what the rest of the
schema evaluates (`evaluatesProperty`, `evaluatesItem`) and apply to the
remaining properties and items.

Numbers are compared exactly, an integer and a double by their values.  A
double is an integer when it has no fractional part.

References are resolved in the registry (`Attest.Schema.Registry`) against
the resource they stand in.  A reference that is already being followed at
the same place of the instance is not followed again, so that a schema that
refers to itself ends.  Evaluation depth is bounded by an explicit fuel.
-/

namespace Attest

namespace Schema

/-- A step of a path into an instance. -/
inductive Step where
  | key (name : String)
  | index (i : Nat)
  deriving DecidableEq, Repr

/-- The JSON Pointer of a path: empty for the root, `/a/0` below it, with `~`
and `/` in keys written `~0` and `~1`. -/
def pointer (path : List Step) : String :=
  String.join (path.map fun
    | .key k => "/" ++ String.ofList (k.toList.flatMap fun c =>
        if c = '~' then ['~', '0'] else if c = '/' then ['~', '1'] else [c])
    | .index i => "/" ++ toString i)

/-- A way an instance fails a schema. -/
structure Violation where
  path : List Step
  message : String

/-- The text of a violation: `pointer: message`. -/
def Violation.text (v : Violation) : String := pointer v.path ++ ": " ++ v.message


/-! ## Values -/

/-- The exact value of a number, in units of `2 ^ -1074`. -/
def exactValue : Json.Number → Int
  | .int i => i * Binary64.unitsOfOne
  | .float x =>
    let (neg, u, _) := x.toRatParts
    if neg then -(u : Int) else u

/-- A number as a double. -/
def asDouble : Json.Number → Binary64
  | .int i => Binary64.ofInt i
  | .float x => x

/-- Whether a number has no fractional part. -/
def isWhole : Json.Number → Bool
  | .int _ => true
  | .float x => x.isIntegral

/-- A count given as a number: a non-negative integer, or a whole double. -/
def countOf? : Json → Option Nat
  | .num (.int i) => if i ≥ 0 then some i.toNat else none
  | .num (.float x) =>
    if x.isIntegral && !x.isNeg then some ((exactValue (.float x)) / Binary64.unitsOfOne).toNat
    else none
  | _ => none

mutual

/-- Equality of values, numbers compared as doubles. -/
def same : Json → Json → Bool
  | .num a, .num b => (asDouble a).eqValue (asDouble b)
  | .arr xs, .arr ys => sameItems xs ys
  | .obj xs, .obj ys => sameMembers xs ys
  | .null, .null => true
  | .bool a, .bool b => a == b
  | .str a, .str b => a == b
  | _, _ => false

/-- Equality of item lists. -/
def sameItems : List Json → List Json → Bool
  | [], [] => true
  | x :: xs, y :: ys => same x y && sameItems xs ys
  | _, _ => false

/-- Equality of member lists. -/
def sameMembers : List (String × Json) → List (String × Json) → Bool
  | [], [] => true
  | (k, x) :: xs, (l, y) :: ys => k == l && same x y && sameMembers xs ys
  | _, _ => false

end

/-- Machine epsilon, `2 ^ -52`, in units of `2 ^ -1074`. -/
def epsilonUnits : Nat := Nat.pow 2 1022

/-- The places of the decimal fractions that settle a multiple whose quotient
overflows. -/
def fractionPlaces : Nat := 15

/-- A double as a count of units of `10 ^ -fractionPlaces`: its magnitude
rounded to that many decimal places, a tie going to the even neighbour. -/
def decimalUnits (x : Binary64) : Nat :=
  Binary64.roundHalfEven (x.units * Nat.pow 10 fractionPlaces) Binary64.unitsOfOne

/-- Whether `item` is a multiple of `divisor` when their quotient overflows:
both are read as decimal fractions of `fractionPlaces` places, and the item is
a multiple when the divisor's fraction divides the item's, or when the
divisor's fraction is zero and the quotient is no number at all. -/
def decimalMultiple (item divisor : Binary64) : Bool :=
  let d := decimalUnits divisor
  d == 0 || decimalUnits item % d == 0

/-- Whether two doubles differ by less than machine epsilon. -/
def nearlyEqual (x y : Binary64) : Bool := (Binary64.sub x y).units < epsilonUnits

/-- Whether any two items are equal. -/
def hasRepeats : List Json → Bool
  | [] => false
  | x :: xs => xs.any (same x) || hasRepeats xs

/-- The type names, in the order messages list them. -/
def typeNames : List String := ["array", "boolean", "integer", "null", "number", "object", "string"]

/-- Whether a value has a named type. -/
def hasType (name : String) (v : Json) : Bool :=
  match name, v with
  | "null", .null => true
  | "boolean", .bool _ => true
  | "object", .obj _ => true
  | "array", .arr _ => true
  | "string", .str _ => true
  | "number", .num _ => true
  | "integer", .num n => isWhole n
  | _, _ => false

/-- A plural ending. -/
def plural (n : Nat) (one many : String) : String := if n = 1 then one else many


/-! ## Dialects -/

/-- The groups of keywords a dialect may turn on.  The core keywords
(references, identifiers, anchors, definitions) are always on. -/
inductive Vocabulary where
  | applicator
  | unevaluated
  | validation
  | metaData
  | formatting
  | content
  deriving DecidableEq, Repr

/-- The vocabulary of a keyword; `none` for the core keywords and for words
that are no keywords. -/
def keywordVocabulary : String → Option Vocabulary
  | "prefixItems" | "items" | "contains" | "additionalProperties" | "properties"
  | "patternProperties" | "dependentSchemas" | "propertyNames" | "if" | "then" | "else"
  | "allOf" | "anyOf" | "oneOf" | "not" | "dependencies" => some .applicator
  | "unevaluatedItems" | "unevaluatedProperties" => some .unevaluated
  | "type" | "enum" | "const" | "multipleOf" | "maximum" | "exclusiveMaximum" | "minimum"
  | "exclusiveMinimum" | "maxLength" | "minLength" | "pattern" | "maxItems" | "minItems"
  | "uniqueItems" | "maxContains" | "minContains" | "maxProperties" | "minProperties"
  | "required" | "dependentRequired" => some .validation
  | "format" => some .formatting
  | "contentEncoding" | "contentMediaType" | "contentSchema" => some .content
  | _ => none

/-- The vocabularies of draft 2020-12. -/
def allVocabularies : List Vocabulary :=
  [.applicator, .unevaluated, .validation, .metaData, .formatting, .content]

/-- The drafts whose keywords are read differently: those before 2019-09,
in which every keyword takes part whatever the vocabularies; 2019-09, which
has recursive references; and 2020-12. -/
inductive Draft where
  | older
  | draft2019
  | draft2020
  deriving DecidableEq, Repr

/-- The drafts before 2019-09, which declare no vocabularies. -/
def olderDrafts : List String :=
  ["http://json-schema.org/draft-04/schema", "http://json-schema.org/draft-06/schema",
   "http://json-schema.org/draft-07/schema"]

/-- A `$schema` value without its trailing `#`s. -/
def dialectName (s : String) : String := String.ofList (s.toList.reverse.dropWhile (· == '#')).reverse

/-- The vocabulary a vocabulary URI of draft 2020-12 or 2019-09 names; the
core vocabularies, which are always on, and unknown ones name none. -/
def vocabularyNamed? : String → Option Vocabulary
  | "https://json-schema.org/draft/2020-12/vocab/applicator"
  | "https://json-schema.org/draft/2019-09/vocab/applicator" => some .applicator
  | "https://json-schema.org/draft/2020-12/vocab/unevaluated" => some .unevaluated
  | "https://json-schema.org/draft/2020-12/vocab/validation"
  | "https://json-schema.org/draft/2019-09/vocab/validation" => some .validation
  | "https://json-schema.org/draft/2020-12/vocab/meta-data"
  | "https://json-schema.org/draft/2019-09/vocab/meta-data" => some .metaData
  | "https://json-schema.org/draft/2020-12/vocab/format-annotation"
  | "https://json-schema.org/draft/2020-12/vocab/format-assertion"
  | "https://json-schema.org/draft/2019-09/vocab/format" => some .formatting
  | "https://json-schema.org/draft/2020-12/vocab/content"
  | "https://json-schema.org/draft/2019-09/vocab/content" => some .content
  | _ => none

/-- The vocabularies a schema turns on through its `$schema`: all of draft
2020-12 when it names none; those of draft 2019-09, which has no unevaluated
vocabulary; none for drafts 4, 6 and 7, which declare no vocabularies.  Any
other meta-schema at hand turns on the vocabularies its `$vocabulary`
lists, or all when it lists none. -/
def Registry.dialect (r : Registry) (schema : Json) : List Vocabulary :=
  match schema with
  | .obj ms =>
    match Json.Members.get? ms "$schema" with
    | some (.str s) =>
      let s := dialectName s
      if olderDrafts.contains s then []
      else if s == "https://json-schema.org/draft/2019-09/schema" then allVocabularies.erase .unevaluated
      else
        let key := match Uri.parse s with
          | .ok u => u.render
          | .error _ => s
        match r.resources.lookup key with
        | some (.obj declared) =>
          match Json.Members.get? declared "$vocabulary" with
          | some (.obj listed) =>
            allVocabularies.filter fun v => listed.any fun (k, _) => vocabularyNamed? k == some v
          | _ => allVocabularies
        | _ => allVocabularies
    | _ => allVocabularies
  | _ => allVocabularies

/-- The draft a `$schema` value names; draft 2020-12 for any other. -/
def draftNamed (schemaUri : String) : Draft :=
  let name := dialectName schemaUri
  if olderDrafts.contains name then .older
  else if name == "https://json-schema.org/draft/2019-09/schema" then .draft2019
  else .draft2020

/-- What evaluation needs besides the schema: the registry, and the URI of
the rules document, which is read as draft 2020-12 whatever it declares. -/
structure Context where
  registry : Registry
  root : String

/-! ## Scopes -/

/-- Where evaluation stands: the resource that relative references are
resolved against, the resources entered so far (outermost first), the
references being followed, each with the instance path it was followed
at, the vocabularies turned on, and the draft of the resource. -/
structure Scope where
  base : Uri
  dynamic : List String
  following : List (String × List Step)
  vocabularies : List Vocabulary
  draft : Draft

/-- The scope at the top of a draft 2020-12 resource, with the vocabularies
turned on. -/
def Scope.ofBase (base : Uri) (vocabularies : List Vocabulary) : Scope :=
  ⟨base, [base.render], [], vocabularies, .draft2020⟩

/-- Whether a keyword takes part: the core keywords always do, and the
others in drafts before 2019-09 or when their vocabulary is on. -/
def Scope.active (s : Scope) (name : String) : Bool :=
  match keywordVocabulary name with
  | some v => s.draft == .older || s.vocabularies.contains v
  | none => true

/-- Whether a reference is already being followed at an instance path. -/
def Scope.follows (s : Scope) (key : String) (path : List Step) : Bool :=
  s.following.contains (key, path)

/-- The draft of a resource: the one its `$schema` names, except for the
rules document, which is read as draft 2020-12. -/
def Context.resourceDraft (cx : Context) (resource : String) : Draft :=
  if resource == cx.root then .draft2020
  else
    match cx.registry.resources.lookup resource with
    | some (.obj ms) =>
      match Json.Members.get? ms "$schema" with
      | some (.str name) => draftNamed name
      | _ => .draft2020
    | _ => .draft2020

/-- The scope inside the target of a reference followed at a path.  The
target's resource decides the draft, and the target's own dialect which
keywords take part, except that a reference to the whole document (`#`)
keeps the draft and the keywords of the current scope. -/
def Context.enter (cx : Context) (s : Scope) (ref : String) (t : Target) (path : List Step) : Scope :=
  let whole := ref == "#"
  { base := t.base
    dynamic := s.dynamic ++ [t.base.render]
    following := (t.key, path) :: s.following
    vocabularies := if whole then s.vocabularies else cx.registry.dialect t.schema
    draft := if whole then s.draft else cx.resourceDraft t.base.render }

/-- The scope inside a schema object: one with an `$id` is a resource of its
own. -/
def Scope.within (s : Scope) (ms : Json.Members) : Scope :=
  match Json.Members.get? ms "$id" with
  | some (.str id) =>
    match Uri.parse id with
    | .ok u =>
      let b := (s.base.resolve u).withoutFragment
      { s with base := b, dynamic := s.dynamic ++ [b.render] }
    | .error _ => s
  | _ => s

/-- The fragment of a reference, after its first `#`. -/
def fragmentOf (ref : String) : String :=
  String.ofList ((ref.toList.dropWhile (· != '#')).drop 1)

/-- The schema a reference names.  A dynamic reference whose target is a
dynamic anchor names instead the anchor of that name in the outermost
resource entered that has one. -/
def Context.target (cx : Context) (scope : Scope) (dynamic : Bool) (ref : String) : Option Target :=
  match cx.registry.lookup scope.base ref with
  | .error _ => none
  | .ok t =>
    let name := fragmentOf ref
    let viaDynamicAnchor := match cx.registry.anchor? t.base.render name with
      | some a => a.dynamic
      | none => false
    if !dynamic || name.isEmpty || name.startsWith "/" || !viaDynamicAnchor then some t
    else
      let outermost := scope.dynamic.findSome? fun res =>
        (cx.registry.anchor? res name).filter (·.dynamic)
      match outermost with
      | some a =>
        some ⟨((Uri.parse a.resource).toOption).getD t.base, a.schema, a.resource ++ "#" ++ name⟩
      | none => some t

/-- Whether a schema sets `$recursiveAnchor`. -/
def recursivelyAnchored : Json → Bool
  | .obj ms =>
    match Json.Members.get? ms "$recursiveAnchor" with
    | some (.bool true) => true
    | _ => false
  | _ => false

/-- The schema a recursive reference names.  When it names the whole
current resource and that resource sets `$recursiveAnchor`, it names
instead the outermost resource of the run of anchored resources entered
last. -/
def Context.recursiveTarget (cx : Context) (scope : Scope) (ref : String) : Option Target :=
  match cx.registry.lookup scope.base ref with
  | .error _ => none
  | .ok t =>
    if ref != "#" || !recursivelyAnchored t.schema then some t
    else
      let anchored := scope.dynamic.reverse.takeWhile fun r =>
        ((cx.registry.resources.lookup r).map recursivelyAnchored).getD false
      match anchored.getLast? with
      | some r =>
        match (cx.registry.resources.lookup r), Uri.parse r with
        | some doc, .ok u => some ⟨u, doc, r⟩
        | _, _ => some t
      | none => some t

/-! ## Keywords -/

/-- Evaluate an instance against a schema in a scope, at a path. -/
abbrev Eval := Scope → Json → Json → List Step → List Violation

/-- The members of an object keyword of the same schema, if present. -/
def siblingMembers (parent : Json.Members) (name : String) : Option Json.Members :=
  (Json.Members.get? parent name).bind Json.members?

/-- A violation at a path. -/
def violationAt (path : List Step) (message : String) : List Violation := [⟨path, message⟩]

/-- The depth to which `unevaluatedProperties` and `unevaluatedItems` look
through applicators and references. -/
def unevaluatedFuel : Nat := 64

/-- Unexpected names or items, quoted, with the verb. -/
def listUnexpected (names : List String) : String :=
  let quote := String.singleton (Char.ofNat 39)
  ", ".intercalate (names.map fun n => quote ++ n ++ quote) ++
    (if names.length = 1 then " was" else " were") ++ " unexpected"

/-- The items of an array keyword of a schema object. -/
def itemsOf (ms : Json.Members) (name : String) : List Json :=
  ((Json.Members.get? ms name).bind Json.items?).getD []

/-- Whether a schema evaluates a property of an object instance: through a
`properties` entry, a matching pattern or `additionalProperties` that the
value is valid against; through `allOf`; through the branches of `anyOf` and
`oneOf` that the instance is valid against; through `if` and `then` when the
instance passes `if`, else through `else`; through the `dependentSchemas` of
present keys; through references; and, below the top (`nested`), through an
`unevaluatedProperties` that the value is valid against. -/
def evaluatesProperty (cx : Context) (eval : Eval) :
    Nat → Bool → Scope → Json → Json → List Step → String → Json → Bool
  | 0, _, _, _, _, _, _, _ => false
  | fuel + 1, nested, scope, .obj ms, inst, path, key, value =>
    let scope := scope.within ms
    let here := path ++ [Step.key key]
    let validValue := fun (s : Json) => (eval scope s value here).isEmpty
    let validWhole := fun (s : Json) => (eval scope s inst path).isEmpty
    let deeper := fun (s : Json) => evaluatesProperty cx eval fuel true scope s inst path key value
    let props := (siblingMembers ms "properties").getD []
    let matching := ((siblingMembers ms "patternProperties").getD []).filter fun (p, _) =>
      Regex.occurs p key
    let present := fun (k : String) => match inst with
      | .obj im => (Json.Members.get? im k).isSome
      | _ => false
    ((Json.Members.get? props key).map validValue).getD false ||
    matching.any (fun (_, sub) => validValue sub) ||
    (match Json.Members.get? ms "additionalProperties" with
      | some sub => (Json.Members.get? props key).isNone && matching.isEmpty && validValue sub
      | none => false) ||
    (itemsOf ms "allOf").any deeper ||
    (itemsOf ms "anyOf").any (fun b => validWhole b && deeper b) ||
    (itemsOf ms "oneOf").any (fun b => validWhole b && deeper b) ||
    (match Json.Members.get? ms "if" with
      | some cond =>
        if validWhole cond then deeper cond || ((Json.Members.get? ms "then").map deeper).getD false
        else ((Json.Members.get? ms "else").map deeper).getD false
      | none => false) ||
    ((siblingMembers ms "dependentSchemas").getD []).any (fun (k, sub) => present k && deeper sub) ||
    ["$ref", "$dynamicRef"].any (fun k =>
      match Json.Members.get? ms k with
      | some (.str ref) =>
        match cx.target scope (k == "$dynamicRef") ref with
        | some t =>
          !scope.follows t.key path &&
            evaluatesProperty cx eval fuel true (cx.enter scope ref t path) t.schema inst path key value
        | none => false
      | _ => false) ||
    (nested && ((Json.Members.get? ms "unevaluatedProperties").map validValue).getD false)
  | _ + 1, _, _, _, _, _, _, _ => false

/-- Whether a schema evaluates an item of an array instance: through the
`prefixItems` entry at its place, `items` after them or `contains`, when
the item is valid against it; and through applicators, references and
nested `unevaluatedItems` as for properties. -/
def evaluatesItem (cx : Context) (eval : Eval) :
    Nat → Bool → Scope → Json → Json → List Step → Nat → Json → Bool
  | 0, _, _, _, _, _, _, _ => false
  | fuel + 1, nested, scope, .obj ms, inst, path, index, item =>
    let scope := scope.within ms
    let here := path ++ [Step.index index]
    let validItem := fun (s : Json) => (eval scope s item here).isEmpty
    let validWhole := fun (s : Json) => (eval scope s inst path).isEmpty
    let deeper := fun (s : Json) => evaluatesItem cx eval fuel true scope s inst path index item
    let leading := itemsOf ms "prefixItems"
    ((leading[index]?).map validItem).getD false ||
    (index ≥ leading.length && ((Json.Members.get? ms "items").map validItem).getD false) ||
    ((Json.Members.get? ms "contains").map validItem).getD false ||
    (itemsOf ms "allOf").any deeper ||
    (itemsOf ms "anyOf").any (fun b => validWhole b && deeper b) ||
    (itemsOf ms "oneOf").any (fun b => validWhole b && deeper b) ||
    (match Json.Members.get? ms "if" with
      | some cond =>
        if validWhole cond then deeper cond || ((Json.Members.get? ms "then").map deeper).getD false
        else ((Json.Members.get? ms "else").map deeper).getD false
      | none => false) ||
    ["$ref", "$dynamicRef"].any (fun k =>
      match Json.Members.get? ms k with
      | some (.str ref) =>
        match cx.target scope (k == "$dynamicRef") ref with
        | some t =>
          !scope.follows t.key path &&
            evaluatesItem cx eval fuel true (cx.enter scope ref t path) t.schema inst path index item
        | none => false
      | _ => false) ||
    (nested && ((Json.Members.get? ms "unevaluatedItems").map validItem).getD false)
  | _ + 1, _, _, _, _, _, _, _ => false

/-- Properties against `properties`, `patternProperties` and an additional
schema (`none` when additional properties are forbidden). -/
def propertyViolations (eval : Eval) (scope : Scope) (props patterns : Json.Members)
    (additional : Option Json) (members : Json.Members) (path : List Step) :
    List Violation :=
  let checks : List (List Violation × Option String) := members.map fun (key, value) =>
    let here := path ++ [Step.key key]
    let matching := patterns.filter fun pat => Regex.occurs pat.1 key
    let byPattern := matching.flatMap fun pat => eval scope pat.2 value here
    match Json.Members.get? props key with
    | some sub => (eval scope sub value here ++ byPattern, none)
    | none =>
      if !matching.isEmpty then (byPattern, none)
      else
        match additional with
        | some sub => (eval scope sub value here, none)
        | none => ([], some key)
  let errors := checks.flatMap (·.1)
  let unexpected := checks.filterMap (·.2)
  if unexpected.isEmpty then errors
  else
    let quote := String.singleton (Char.ofNat 39)
    let names := ", ".intercalate (unexpected.map fun k => quote ++ k ++ quote)
    errors ++ violationAt path ("Additional properties are not allowed (" ++ names ++
      (if unexpected.length = 1 then " was" else " were") ++ " unexpected)")

/-- Whether `additionalProperties` takes over `properties` and
`patternProperties`: it is `false` or a schema object. -/
def additionalTakesOver (parent : Json.Members) : Bool :=
  match Json.Members.get? parent "additionalProperties" with
  | some (.bool false) => true
  | some (.obj _) => true
  | _ => false

/-- The violations of one keyword of a schema object. -/
def keyword (cx : Context) (eval : Eval) (scope : Scope) (parent : Json.Members)
    (name : String) (v : Json) (inst : Json) (path : List Step) : List Violation :=
  let text := inst.compact
  let valid (sub : Json) : Bool := (eval scope sub inst path).isEmpty
  match name with
  | "$ref" | "$dynamicRef" =>
    match v with
    | .str ref =>
      match cx.target scope (name == "$dynamicRef") ref with
      | some t => if scope.follows t.key path then [] else eval (cx.enter scope ref t path) t.schema inst path
      | none => []
    | _ => []
  | "$recursiveRef" =>
    match v with
    | .str ref =>
      if scope.draft != .draft2019 then []
      else
        match cx.recursiveTarget scope ref with
        | some t => if scope.follows t.key path then [] else eval (cx.enter scope ref t path) t.schema inst path
        | none => []
    | _ => []
  | "additionalProperties" =>
    match inst, v with
    | .obj im, .bool false =>
      propertyViolations eval scope ((siblingMembers parent "properties").getD [])
        ((siblingMembers parent "patternProperties").getD []) none im path
    | .obj im, .obj sub =>
      propertyViolations eval scope ((siblingMembers parent "properties").getD [])
        ((siblingMembers parent "patternProperties").getD []) (some (.obj sub)) im path
    | _, _ => []
  | "properties" =>
    match inst, v with
    | .obj im, .obj props =>
      if additionalTakesOver parent then []
      else props.flatMap fun (key, sub) =>
        match Json.Members.get? im key with
        | some value => eval scope sub value (path ++ [.key key])
        | none => []
    | _, _ => []
  | "patternProperties" =>
    match inst, v with
    | .obj im, .obj patterns =>
      if additionalTakesOver parent then []
      else patterns.flatMap fun (p, sub) =>
        (im.filter fun (key, _) => Regex.occurs p key).flatMap fun (key, value) =>
          eval scope sub value (path ++ [.key key])
    | _, _ => []
  | "propertyNames" =>
    match inst with
    | .obj im => im.flatMap fun (key, _) =>
        (eval scope v (.str key) path).map fun e => ⟨path, e.message⟩
    | _ => []
  | "required" =>
    match inst, v with
    | .obj im, .arr names =>
      names.filterMap fun n =>
        match n with
        | .str k => if (Json.Members.get? im k).isSome then none
                    else some ⟨path, (Json.str k).compact ++ " is a required property"⟩
        | _ => none
    | _, _ => []
  | "dependentRequired" =>
    match inst, v with
    | .obj im, .obj deps =>
      deps.flatMap fun (key, needed) =>
        if (Json.Members.get? im key).isNone then []
        else ((needed.items?).getD []).filterMap fun n =>
          match n with
          | .str k => if (Json.Members.get? im k).isSome then none
                      else some ⟨path, (Json.str k).compact ++ " is a required property"⟩
          | _ => none
    | _, _ => []
  | "dependencies" =>
    match inst, v with
    | .obj im, .obj deps =>
      deps.flatMap fun (key, dep) =>
        if (Json.Members.get? im key).isNone then []
        else
          match dep with
          | .arr needed =>
            needed.filterMap fun n =>
              match n with
              | .str k => if (Json.Members.get? im k).isSome then none
                          else some ⟨path, (Json.str k).compact ++ " is a required property"⟩
              | _ => none
          | sub => eval scope sub inst path
    | _, _ => []
  | "dependentSchemas" =>
    match inst, v with
    | .obj im, .obj deps =>
      deps.flatMap fun (key, sub) =>
        if (Json.Members.get? im key).isNone then [] else eval scope sub inst path
    | _, _ => []
  | "type" =>
    match v with
    | .str t => if hasType t inst then [] else violationAt path (text ++ " is not of type " ++ Text.quoted t)
    | .arr [.str t] => if hasType t inst then [] else violationAt path (text ++ " is not of type " ++ Text.quoted t)
    | .arr ts =>
      let names := ts.filterMap Json.str?
      if names.any (hasType · inst) then []
      else
        let ordered := typeNames.filter (names.contains ·)
        violationAt path (text ++ " is not of types " ++ ", ".intercalate (ordered.map Text.quoted))
    | _ => []
  | "enum" =>
    match v with
    | .arr options =>
      if options.any (same inst) then [] else violationAt path (text ++ " is not one of " ++ v.compact)
    | _ => []
  | "const" =>
    let equal := match v, inst with
      | .num c, .num x => nearlyEqual (asDouble c) (asDouble x)
      | .num _, _ => false
      | _, _ => same inst v
    if equal then [] else violationAt path (v.compact ++ " was expected")
  | "minimum" | "maximum" | "exclusiveMinimum" | "exclusiveMaximum" =>
    -- in drafts before 2019-09 a bound is exclusive when the flag of its side is `true`
    let flagged := fun (side : String) => scope.draft == .older &&
      match Json.Members.get? parent side with
      | some (.bool true) => true
      | _ => false
    let name := match name with
      | "minimum" => if flagged "exclusiveMinimum" then "exclusiveMinimum" else name
      | "maximum" => if flagged "exclusiveMaximum" then "exclusiveMaximum" else name
      | _ => name
    match inst, v with
    | .num x, .num limit =>
      let a := exactValue x
      let b := exactValue limit
      let (ok, what) : Bool × String := match name with
        | "minimum" => (a ≥ b, " is less than the minimum of ")
        | "maximum" => (a ≤ b, " is greater than the maximum of ")
        | "exclusiveMinimum" => (a > b, " is less than or equal to the minimum of ")
        | _ => (a < b, " is greater than or equal to the maximum of ")
      if ok then [] else violationAt path (text ++ what ++ v.compact)
    | _, _ => []
  | "multipleOf" =>
    match inst, v with
    | .num x, .num m =>
      let item := asDouble x
      let divisor := asDouble m
      let ok :=
        if divisor.isIntegral then
          item.isIntegral && (Binary64.rem item divisor).isZero
        else
          let remainder := Binary64.rem (Binary64.div item divisor) (Binary64.ofNat 1)
          if remainder.isNaN then decimalMultiple item divisor
          else exactValue (.float remainder) < epsilonUnits
      if ok then [] else violationAt path (text ++ " is not a multiple of " ++ divisor.expandedText)
    | _, _ => []
  | "minLength" | "maxLength" =>
    match inst, countOf? v with
    | .str s, some limit =>
      let n := s.length
      if name = "minLength" then
        if n < limit then violationAt path (text ++ " is shorter than " ++ toString limit ++ " character" ++
          plural limit "" "s") else []
      else if n > limit then violationAt path (text ++ " is longer than " ++ toString limit ++ " character" ++
          plural limit "" "s") else []
    | _, _ => []
  | "pattern" =>
    match inst, v with
    | .str s, .str p =>
      match Regex.find p s with
      | .found => []
      | .absent => violationAt path (text ++ " does not match \"" ++ p ++ "\"")
      | .overrun => violationAt path "Error executing regex: Max limit for backtracking count exceeded"
    | _, _ => []
  | "items" =>
    match inst with
    | .arr xs =>
      let start := (((Json.Members.get? parent "prefixItems").bind Json.items?).map List.length).getD 0
      (xs.zipIdx.drop start).flatMap fun (x, i) => eval scope v x (path ++ [.index i])
    | _ => []
  | "prefixItems" =>
    match inst, v with
    | .arr xs, .arr subs =>
      (xs.zipIdx.zip subs).flatMap fun ((x, i), sub) => eval scope sub x (path ++ [.index i])
    | _, _ => []
  | "contains" =>
    match inst with
    | .arr xs =>
      let count := (xs.filter fun x => (eval scope v x path).isEmpty).length
      let least := ((Json.Members.get? parent "minContains").bind countOf?).getD 1
      let most := (Json.Members.get? parent "maxContains").bind countOf?
      let tooFew := count < least
      let tooMany := match most with
        | some m => count > m
        | none => false
      if tooFew || tooMany then violationAt path ("None of " ++ text ++ " are valid under the given schema")
      else []
    | _ => []
  | "minItems" | "maxItems" =>
    match inst, countOf? v with
    | .arr xs, some limit =>
      if name = "minItems" then
        if xs.length < limit then violationAt path (text ++ " has less than " ++ toString limit ++ " item" ++
          plural limit "" "s") else []
      else if xs.length > limit then violationAt path (text ++ " has more than " ++ toString limit ++
          " item" ++ plural limit "" "s") else []
    | _, _ => []
  | "uniqueItems" =>
    match inst, v with
    | .arr xs, .bool true => if hasRepeats xs then violationAt path (text ++ " has non-unique elements") else []
    | _, _ => []
  | "minProperties" | "maxProperties" =>
    match inst, countOf? v with
    | .obj ms, some limit =>
      if name = "minProperties" then
        if ms.length < limit then violationAt path (text ++ " has less than " ++ toString limit ++
          " propert" ++ plural limit "y" "ies") else []
      else if ms.length > limit then violationAt path (text ++ " has more than " ++ toString limit ++
          " propert" ++ plural limit "y" "ies") else []
    | _, _ => []
  | "allOf" =>
    match v with
    | .arr subs => subs.flatMap fun sub => eval scope sub inst path
    | _ => []
  | "anyOf" =>
    match v with
    | .arr subs =>
      if subs.any valid then []
      else violationAt path (text ++ " is not valid under any of the schemas listed in the " ++
        String.singleton (Char.ofNat 39) ++ "anyOf" ++ String.singleton (Char.ofNat 39) ++ " keyword")
    | _ => []
  | "oneOf" =>
    match v with
    | .arr subs =>
      let quote := String.singleton (Char.ofNat 39)
      match (subs.filter valid).length with
      | 1 => []
      | 0 => violationAt path (text ++ " is not valid under any of the schemas listed in the " ++ quote ++
          "oneOf" ++ quote ++ " keyword")
      | _ => violationAt path (text ++ " is valid under more than one of the schemas listed in the " ++
          quote ++ "oneOf" ++ quote ++ " keyword")
    | _ => []
  | "not" => if valid v then violationAt path (v.compact ++ " is not allowed for " ++ text) else []
  | "if" =>
    if valid v then
      match Json.Members.get? parent "then" with
      | some sub => eval scope sub inst path
      | none => []
    else
      match Json.Members.get? parent "else" with
      | some sub => eval scope sub inst path
      | none => []
  | "unevaluatedProperties" =>
    match inst with
    | .obj im =>
      let unexpected := im.filter fun (key, value) =>
        !evaluatesProperty cx eval unevaluatedFuel false scope (.obj parent) inst path key value &&
          !(eval scope v value path).isEmpty
      if unexpected.isEmpty then []
      else violationAt path ("Unevaluated properties are not allowed (" ++
        listUnexpected (unexpected.map (·.1)) ++ ")")
    | _ => []
  | "unevaluatedItems" =>
    match inst with
    | .arr xs =>
      let unexpected := xs.zipIdx.filter fun (x, i) =>
        !evaluatesItem cx eval unevaluatedFuel false scope (.obj parent) inst path i x &&
          !(eval scope v x path).isEmpty
      if unexpected.isEmpty then []
      else violationAt path ("Unevaluated items are not allowed (" ++
        listUnexpected (unexpected.map fun (x, _) => x.compact) ++ ")")
    | _ => []
  | _ => []

/-- Every violation of an instance against a schema, with at most `fuel`
nested schema applications. -/
def violations (cx : Context) : Nat → Eval
  | 0 => fun _ _ _ _ => []
  | fuel + 1 => fun scope schema inst path =>
    match schema with
    | .bool true => []
    | .bool false => violationAt path ("False schema does not allow " ++ inst.compact)
    | .obj ms =>
      let scope := scope.within ms
      (ms.filter fun (k, _) => scope.active k).flatMap fun (k, v) =>
        keyword cx (violations cx fuel) scope ms k v inst path
    | _ => []

/-- The depth of nested schema applications allowed. -/
def evaluationFuel : Nat := 4096

end Schema

end Attest
