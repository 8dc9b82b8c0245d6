import Attest.Json.Basic

/-!
# The meta-schemas

A rules document must itself be a valid schema: it is checked against the
draft 2020-12 meta-schema before it is used.  That meta-schema is the
conjunction of seven vocabulary meta-schemas (core, applicator, unevaluated,
validation, meta-data, format annotation and content), each of which refers
back to the whole meta-schema through the dynamic anchor `meta` for every
subschema.  Only the members that validate are kept here, and the
vocabulary each vocabulary meta-schema declares; titles and comments do not
take part in checking.  The meta-schemas of earlier drafts are in
`Attest.Schema.Drafts`.
-/

namespace Attest

namespace Schema

namespace Meta

/-- A string. -/
def s (x : String) : Json := .str x

/-- An object, its members sorted. -/
def o (ms : List (String × Json)) : Json := Json.object ms

/-- A reference to a schema of this set. -/
def ref (r : String) : Json := o [("$ref", s r)]

/-- The reference to the whole meta-schema, through the dynamic anchor. -/
def dynamicMeta : Json := o [("$dynamicRef", s "#meta")]

/-- A schema is an object or a boolean. -/
def schemaType : (String × Json) := ("type", .arr [s "object", s "boolean"])

/-- An object whose every member is a schema. -/
def schemaMap : Json :=
  o [("type", s "object"), ("additionalProperties", dynamicMeta), ("default", o [])]

/-- A vocabulary meta-schema: its properties and definitions, and the
vocabulary it declares, which a rules document naming it as its `$schema`
turns on. -/
def vocabulary (name : String) (properties : List (String × Json))
    (defs : List (String × Json)) : Json :=
  o ([("$id", s ("https://json-schema.org/draft/2020-12/meta/" ++ name)),
      ("$vocabulary", o [("https://json-schema.org/draft/2020-12/vocab/" ++ name, .bool true)]),
      ("$dynamicAnchor", s "meta"), schemaType, ("properties", o properties)] ++
    (if defs.isEmpty then [] else [("$defs", o defs)]))

/-- The core vocabulary: identifiers, references, anchors and definitions. -/
def core : Json :=
  vocabulary "core"
    [("$id", o [("$ref", s "#/$defs/uriReferenceString"), ("pattern", s "^[^#]*#?$")]),
     ("$schema", ref "#/$defs/uriString"),
     ("$ref", ref "#/$defs/uriReferenceString"),
     ("$anchor", ref "#/$defs/anchorString"),
     ("$dynamicRef", ref "#/$defs/uriReferenceString"),
     ("$dynamicAnchor", ref "#/$defs/anchorString"),
     ("$vocabulary", o [("type", s "object"), ("propertyNames", ref "#/$defs/uriString"),
       ("additionalProperties", o [("type", s "boolean")])]),
     ("$comment", o [("type", s "string")]),
     ("$defs", o [("type", s "object"), ("additionalProperties", dynamicMeta)])]
    [("anchorString", o [("type", s "string"), ("pattern", s "^[A-Za-z_][-A-Za-z0-9._]*$")]),
     ("uriString", o [("type", s "string"), ("format", s "uri")]),
     ("uriReferenceString", o [("type", s "string"), ("format", s "uri-reference")])]

/-- The applicator vocabulary: keywords that apply subschemas. -/
def applicator : Json :=
  vocabulary "applicator"
    [("prefixItems", ref "#/$defs/schemaArray"),
     ("items", dynamicMeta),
     ("contains", dynamicMeta),
     ("additionalProperties", dynamicMeta),
     ("properties", schemaMap),
     ("patternProperties", o [("type", s "object"), ("additionalProperties", dynamicMeta),
       ("propertyNames", o [("format", s "regex")]), ("default", o [])]),
     ("dependentSchemas", schemaMap),
     ("propertyNames", dynamicMeta),
     ("if", dynamicMeta),
     ("then", dynamicMeta),
     ("else", dynamicMeta),
     ("allOf", ref "#/$defs/schemaArray"),
     ("anyOf", ref "#/$defs/schemaArray"),
     ("oneOf", ref "#/$defs/schemaArray"),
     ("not", dynamicMeta)]
    [("schemaArray", o [("type", s "array"), ("minItems", .num (.int 1)),
      ("items", dynamicMeta)])]

/-- The unevaluated vocabulary. -/
def unevaluated : Json :=
  vocabulary "unevaluated"
    [("unevaluatedItems", dynamicMeta), ("unevaluatedProperties", dynamicMeta)] []

/-- The validation vocabulary: assertions on values. -/
def validation : Json :=
  let number := o [("type", s "number")]
  vocabulary "validation"
    [("type", o [("anyOf", .arr [ref "#/$defs/simpleTypes",
        o [("type", s "array"), ("items", ref "#/$defs/simpleTypes"),
          ("minItems", .num (.int 1)), ("uniqueItems", .bool true)]])]),
     ("const", .bool true),
     ("enum", o [("type", s "array"), ("items", .bool true)]),
     ("multipleOf", o [("type", s "number"), ("exclusiveMinimum", .num (.int 0))]),
     ("maximum", number),
     ("exclusiveMaximum", number),
     ("minimum", number),
     ("exclusiveMinimum", number),
     ("maxLength", ref "#/$defs/nonNegativeInteger"),
     ("minLength", ref "#/$defs/nonNegativeIntegerDefault0"),
     ("pattern", o [("type", s "string"), ("format", s "regex")]),
     ("maxItems", ref "#/$defs/nonNegativeInteger"),
     ("minItems", ref "#/$defs/nonNegativeIntegerDefault0"),
     ("uniqueItems", o [("type", s "boolean"), ("default", .bool false)]),
     ("maxContains", ref "#/$defs/nonNegativeInteger"),
     ("minContains", o [("$ref", s "#/$defs/nonNegativeInteger"), ("default", .num (.int 1))]),
     ("maxProperties", ref "#/$defs/nonNegativeInteger"),
     ("minProperties", ref "#/$defs/nonNegativeIntegerDefault0"),
     ("required", ref "#/$defs/stringArray"),
     ("dependentRequired", o [("type", s "object"),
       ("additionalProperties", ref "#/$defs/stringArray")])]
    [("nonNegativeInteger", o [("type", s "integer"), ("minimum", .num (.int 0))]),
     ("nonNegativeIntegerDefault0",
       o [("$ref", s "#/$defs/nonNegativeInteger"), ("default", .num (.int 0))]),
     ("simpleTypes", o [("enum", .arr (["array", "boolean", "integer", "null", "number",
       "object", "string"].map s))]),
     ("stringArray", o [("type", s "array"), ("items", o [("type", s "string")]),
       ("uniqueItems", .bool true), ("default", .arr [])])]

/-- The meta-data vocabulary. -/
def metaData : Json :=
  let flag := o [("type", s "boolean"), ("default", .bool false)]
  vocabulary "meta-data"
    [("title", o [("type", s "string")]),
     ("description", o [("type", s "string")]),
     ("default", .bool true),
     ("deprecated", flag),
     ("readOnly", flag),
     ("writeOnly", flag),
     ("examples", o [("type", s "array"), ("items", .bool true)])] []

/-- The format-annotation vocabulary. -/
def formatting : Json :=
  vocabulary "format-annotation" [("format", o [("type", s "string")])] []

/-- The content vocabulary. -/
def content : Json :=
  vocabulary "content"
    [("contentEncoding", o [("type", s "string")]),
     ("contentMediaType", o [("type", s "string")]),
     ("contentSchema", dynamicMeta)] []

/-- The whole meta-schema: all vocabularies, and the members that older
drafts used. -/
def schema : Json :=
  o [("$id", s "https://json-schema.org/draft/2020-12/schema"),
     ("$dynamicAnchor", s "meta"),
     ("allOf", .arr (["meta/core", "meta/applicator", "meta/unevaluated", "meta/validation",
       "meta/meta-data", "meta/format-annotation", "meta/content"].map ref)),
     schemaType,
     ("properties", o [
       ("definitions", o [("type", s "object"), ("additionalProperties", dynamicMeta),
         ("deprecated", .bool true), ("default", o [])]),
       ("dependencies", o [("type", s "object"),
         ("additionalProperties", o [("anyOf", .arr [dynamicMeta,
           ref "meta/validation#/$defs/stringArray"])]),
         ("deprecated", .bool true), ("default", o [])]),
       ("$recursiveAnchor", o [("$ref", s "meta/core#/$defs/anchorString"),
         ("deprecated", .bool true)]),
       ("$recursiveRef", o [("$ref", s "meta/core#/$defs/uriReferenceString"),
         ("deprecated", .bool true)])])]

end Meta

end Schema

end Attest
