import Attest.Schema.Uri
import Attest.Schema.Drafts
import Attest.Json.Write

/-!
# Schema resources and references

A rules document is read as a set of *resources*: the document itself,
known by its `$id` or by `json-schema:///`, and every subschema with an
`$id` of its own, known by that identifier resolved against the resource
around it.  Anchors (`$anchor`, `$dynamicAnchor`) name subschemas inside
their resource.  The meta-schemas are resources too, under their own URIs.

A reference is resolved against the URI of the resource it stands in.  Its
fragment is empty (the whole resource), a JSON Pointer (starting with `/`)
or an anchor name.  Reading the document also lists the other documents
its references need: a reference that names a document outside the
registry cannot be retrieved, and the rules are refused.
-/

namespace Attest

namespace Schema

/-- The URI a rules document is known by when it names none. -/
def defaultBase : Uri := ⟨some "json-schema", some "", "/", none, none⟩

/-- An anchor: the resource it belongs to, its name, whether it is dynamic,
and the schema it names. -/
structure Anchor where
  resource : String
  name : String
  dynamic : Bool
  schema : Json
  deriving Inhabited

/-- Schema resources by URI, and their anchors. -/
structure Registry where
  resources : List (String × Json)
  anchors : List Anchor
  deriving Inhabited

/-- What reading a document finds: its resources and anchors, and the
documents its references name, in the order met. -/
structure Crawl where
  registry : Registry
  needed : List String
  deriving Inhabited

/-- The fault of a text that is not a URI reference. -/
def invalidUri (text : String) (fault : UriFault) : String :=
  "Invalid URI reference " ++ String.singleton (Char.ofNat 39) ++ text ++
    String.singleton (Char.ofNat 39) ++ ": " ++ fault.message

/-- Read a URI reference, with the fault as text. -/
def parseUri (text : String) : Except String Uri :=
  match Uri.parse text with
  | .ok u => .ok u
  | .error fault => .error (invalidUri text fault)

/-- The keywords whose value is a subschema, whose value is an array of
subschemas, and whose value is an object of subschemas. -/
def singleSubschemaKeywords : List String :=
  ["additionalProperties", "contains", "contentSchema", "else", "if", "items", "not",
   "propertyNames", "then", "unevaluatedItems", "unevaluatedProperties"]

/-- Keywords whose value is an array of subschemas. -/
def listSubschemaKeywords : List String := ["allOf", "anyOf", "oneOf", "prefixItems"]

/-- Keywords whose value is an object of subschemas. -/
def mapSubschemaKeywords : List String :=
  ["$defs", "definitions", "dependentSchemas", "patternProperties", "properties"]

/-- The subschemas of a schema object, keyword by keyword in order. -/
def subschemas (ms : Json.Members) : List Json :=
  ms.flatMap fun (k, v) =>
    if singleSubschemaKeywords.contains k then [v]
    else if listSubschemaKeywords.contains k then (v.items?).getD []
    else if mapSubschemaKeywords.contains k then ((v.members?).getD []).map (·.2)
    else []

/-- Whether a reference names one of the published meta-schemas, whose
documents are always at hand. -/
def isMetaReference (ref : String) : Bool :=
  ref.startsWith "https://json-schema.org/draft/" || ref.startsWith "http://json-schema.org/draft-"

/-- The documents that the `$ref` and `$schema` of a schema object name,
resolved against its resource.  Resources named by a URN are not looked
into, nor are references to meta-schemas or to the resource itself. -/
def neededBy (base : Uri) (ms : Json.Members) : Except String (List String) :=
  if base.scheme == some "urn" || (base.render).startsWith "https://json-schema.org/draft/" then .ok []
  else
    ["$ref", "$schema"].foldlM (fun acc key =>
      match Json.Members.get? ms key with
      | some (.str ref) =>
        if isMetaReference ref || ref == "#" then .ok acc
        else do
          let u ← parseUri ref
          return acc ++ [(base.resolve u).withoutFragment.render]
      | _ => .ok acc) []

mutual

/-- Read a schema at a base URI into the crawl so far; `collect` says
whether the documents its references name are listed. -/
def crawlSchema (collect : Bool) : Nat → Uri → Json → Crawl → Except String Crawl
  | 0, _, _, c => .ok c
  | fuel + 1, base, .obj ms, c => do
    let base ← match Json.Members.get? ms "$id" with
      | some (.str id) => do
        let u ← parseUri id
        pure (base.resolve u).withoutFragment
      | _ => pure base
    let key := base.render
    let resources := if (Json.Members.get? ms "$id").isSome then
        c.registry.resources ++ [(key, Json.obj ms)]
      else c.registry.resources
    let anchorOf := fun (name : String) (dynamic : Bool) =>
      match Json.Members.get? ms name with
      | some (.str a) => [({ resource := key, name := a, dynamic := dynamic, schema := .obj ms } : Anchor)]
      | _ => []
    let anchors := c.registry.anchors ++ anchorOf "$anchor" false ++ anchorOf "$dynamicAnchor" true
    let needed ← if collect then (c.needed ++ ·) <$> neededBy base ms else pure c.needed
    crawlAll collect fuel base (subschemas ms) ⟨⟨resources, anchors⟩, needed⟩
  | _ + 1, _, _, c => .ok c

/-- Read several schemas at one base URI. -/
def crawlAll (collect : Bool) : Nat → Uri → List Json → Crawl → Except String Crawl
  | 0, _, _, c => .ok c
  | _ + 1, _, [], c => .ok c
  | fuel + 1, base, s :: rest, c => do
    let c ← crawlSchema collect fuel base s c
    crawlAll collect fuel base rest c

end

/-- The depth to which documents are read. -/
def crawlFuel : Nat := 4096

/-- The URI a document is known by: its `$id` resolved against the default,
or the default. -/
def documentBase (doc : Json) : Except String Uri :=
  match doc with
  | .obj ms =>
    match Json.Members.get? ms "$id" with
    | some (.str id) => do
      let u ← parseUri id
      return (defaultBase.resolve u).withoutFragment
    | _ => .ok defaultBase
  | _ => .ok defaultBase

/-- Read a document into a registry: it is registered under its base URI
whether or not it has an `$id`. -/
def Crawl.add (collect : Bool) (c : Crawl) (doc : Json) : Except String Crawl := do
  let base ← documentBase doc
  let c := { c with registry := { c.registry with resources := c.registry.resources ++ [(base.render, doc)] } }
  crawlSchema collect crawlFuel defaultBase doc c

/-- Read a document known by a given URI into a registry, without listing
the documents its references name. -/
def Crawl.addAt (c : Crawl) (entry : String × Json) : Except String Crawl := do
  let (key, doc) := entry
  let base ← parseUri key
  let c := { c with registry := { c.registry with resources := c.registry.resources ++ [(key, doc)] } }
  crawlSchema false crawlFuel base doc c

/-- The registry of the meta-schemas alone. -/
def metaRegistry : Registry :=
  match Meta.documents.foldlM Crawl.addAt default with
  | .ok c => c.registry
  | .error _ => default

/-- Why a document named by a reference cannot be had. -/
def unretrievable (uri reason : String) : String :=
  "Resource " ++ String.singleton (Char.ofNat 39) ++ uri ++ String.singleton (Char.ofNat 39) ++
    " is not present in a registry and retrieving it failed: " ++ reason

/-- Why a document outside the registry could not be fetched: documents on
the web and in files are out of reach, and other schemes are unknown. -/
def fetchFailure (uri : String) : String :=
  match (Uri.parse uri).toOption.bind Uri.scheme with
  | some "http" | some "https" => "error sending request for url (" ++ uri ++ ")"
  | some "file" => "No such file or directory (os error 2)"
  | scheme => "Unknown scheme " ++ scheme.getD ""

/-- The registry of a rules document with the meta-schemas; refused when a
URI reference in it is malformed or names a document that is not at hand. -/
def Registry.ofRules (rules : Json) : Except String Registry := do
  let c ← Crawl.add true ⟨metaRegistry, []⟩ rules
  for uri in c.needed do
    if (c.registry.resources.lookup uri).isNone then
      throw (unretrievable uri (fetchFailure uri))
  return c.registry

/-- A schema that a reference names: the URI of the resource it lies in,
the schema, and the absolute reference that names it. -/
structure Target where
  base : Uri
  schema : Json
  key : String
  deriving Inhabited

/-- The value of a percent-escape sequence. -/
def percentDecode : List Char → List Char
  | '%' :: a :: b :: rest =>
    match Regex.hexValue? a, Regex.hexValue? b with
    | some x, some y => Char.ofNat (x * 16 + y) :: percentDecode rest
    | _, _ => '%' :: percentDecode (a :: b :: rest)
  | c :: rest => c :: percentDecode rest
  | [] => []

/-- A reference token of a JSON Pointer, with `~1` and `~0` read back. -/
def unescapeToken : List Char → List Char
  | '~' :: '1' :: rest => '/' :: unescapeToken rest
  | '~' :: '0' :: rest => '~' :: unescapeToken rest
  | c :: rest => c :: unescapeToken rest
  | [] => []

/-- An array index of a JSON Pointer: decimal digits, perhaps after a
`+`. -/
def arrayIndex? (token : String) : Option Nat :=
  let digits := match token.toList with
    | '+' :: rest => rest
    | cs => cs
  if !digits.isEmpty && digits.all Char.isDigit then (String.ofList digits).toNat? else none

/-- Follow a JSON Pointer from a resource; a subschema with an `$id` on the
way becomes the resource of what follows. -/
def followPointer (pointer : String) : Uri → Json → List String → Except String (Uri × Json)
  | base, v, [] => .ok (base, v)
  | base, v, token :: rest => do
    let quote := String.singleton (Char.ofNat 39)
    let nowhere := "Pointer " ++ quote ++ pointer ++ quote ++ " does not exist"
    let next ← match v with
      | .arr xs =>
        match arrayIndex? token with
        | none => throw ("Failed to parse array index " ++ quote ++ token ++ quote ++ " in pointer " ++
            quote ++ pointer ++ quote)
        | some i =>
          match xs[i]? with
          | some x => pure x
          | none => throw nowhere
      | .obj ms =>
        match Json.Members.get? ms (String.ofList (unescapeToken token.toList)) with
        | some x => pure x
        | none => throw nowhere
      | _ => throw nowhere
    let base := match next with
      | .obj ms =>
        match Json.Members.get? ms "$id" with
        | some (.str id) =>
          match Uri.parse id with
          | .ok u => (base.resolve u).withoutFragment
          | .error _ => base
        | _ => base
      | _ => base
    followPointer pointer base next rest

/-- The anchor of a resource with a name. -/
def Registry.anchor? (r : Registry) (resource name : String) : Option Anchor :=
  r.anchors.find? fun a => a.resource == resource && a.name == name

/-- Resolve a reference made in the resource `base`. -/
def Registry.lookup (r : Registry) (base : Uri) (ref : String) : Except String Target := do
  let (uri, fragment) ← if ref.startsWith "#" then pure (base.withoutFragment, (ref.drop 1).toString)
    else do
      let u ← parseUri ref
      let resolved := base.resolve u
      pure (resolved.withoutFragment, resolved.fragment.getD "")
  let key := uri.render
  let quote := String.singleton (Char.ofNat 39)
  match r.resources.lookup key with
  | none =>
    throw (unretrievable key "Retrieving external resources is not supported once the registry is populated")
  | some root =>
    if fragment.isEmpty then return ⟨uri, root, key⟩
    else if fragment.startsWith "/" then
      let pointer := String.ofList (percentDecode fragment.toList)
      let (b, target) ← followPointer pointer uri root ((pointer.splitOn "/").drop 1)
      return ⟨b, target, key ++ "#" ++ fragment⟩
    else
      match r.anchor? key fragment with
      | some a => return ⟨uri, a.schema, key ++ "#" ++ fragment⟩
      | none => throw ("Anchor " ++ quote ++ fragment ++ quote ++ " does not exist")

end Schema

end Attest
