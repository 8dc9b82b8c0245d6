import Attest.Schema.Meta

/-!
# The meta-schemas of earlier drafts

Rules may refer to the meta-schemas of drafts 4, 6, 7 and 2019-09, which
are at hand like those of draft 2020-12.  Keywords inside them are read as
their own draft reads them: in drafts 4, 6 and 7 every keyword takes part,
and in draft 2019-09 a subschema refers back to the whole meta-schema
through `$recursiveRef`, which goes to the outermost resource entered that
sets `$recursiveAnchor`.

As for draft 2020-12, only the members that validate are kept, with the
vocabularies that the 2019-09 vocabulary meta-schemas declare.
-/

namespace Attest

namespace Schema

namespace Meta

/-- An empty object, the default of many members. -/
def emptyObject : Json := o []

/-- A string member. -/
def text : Json := o [("type", s "string")]

/-- A number member. -/
def number : Json := o [("type", s "number")]

/-- A boolean member that is `false` by default. -/
def flag : Json := o [("type", s "boolean"), ("default", .bool false)]

/-- The names of the simple types. -/
def simpleTypes : Json :=
  o [("enum", .arr (["array", "boolean", "integer", "null", "number", "object", "string"].map s))]

/-- A type: one simple type, or a non-empty array of distinct ones named by
`simple`. -/
def typeMember (simple : Json) : Json :=
  o [("anyOf", .arr [simple, o [("type", s "array"), ("items", simple),
    ("minItems", .num (.int 1)), ("uniqueItems", .bool true)]])]

/-- The draft-07 meta-schema. -/
def draft07 : Json :=
  let whole := ref "#"
  let count := ref "#/definitions/nonNegativeInteger"
  let count0 := ref "#/definitions/nonNegativeIntegerDefault0"
  let schemaObjects := o [("type", s "object"), ("additionalProperties", whole), ("default", o [])]
  o [("$schema", s "http://json-schema.org/draft-07/schema#"),
     ("$id", s "http://json-schema.org/draft-07/schema#"),
     ("definitions", o [
       ("schemaArray", o [("type", s "array"), ("minItems", .num (.int 1)), ("items", whole)]),
       ("nonNegativeInteger", o [("type", s "integer"), ("minimum", .num (.int 0))]),
       ("nonNegativeIntegerDefault0", o [("allOf", .arr [count, o [("default", .num (.int 0))]])]),
       ("simpleTypes", simpleTypes),
       ("stringArray", o [("type", s "array"), ("items", text), ("uniqueItems", .bool true),
         ("default", .arr [])])]),
     ("type", .arr [s "object", s "boolean"]),
     ("properties", o [
       ("$id", o [("type", s "string"), ("format", s "uri-reference")]),
       ("$schema", o [("type", s "string"), ("format", s "uri")]),
       ("$ref", o [("type", s "string"), ("format", s "uri-reference")]),
       ("$comment", text),
       ("title", text),
       ("description", text),
       ("default", .bool true),
       ("readOnly", flag),
       ("writeOnly", flag),
       ("examples", o [("type", s "array"), ("items", .bool true)]),
       ("multipleOf", o [("type", s "number"), ("exclusiveMinimum", .num (.int 0))]),
       ("maximum", number),
       ("exclusiveMaximum", number),
       ("minimum", number),
       ("exclusiveMinimum", number),
       ("maxLength", count),
       ("minLength", count0),
       ("pattern", o [("type", s "string"), ("format", s "regex")]),
       ("additionalItems", whole),
       ("items", o [("anyOf", .arr [whole, ref "#/definitions/schemaArray"]), ("default", .bool true)]),
       ("maxItems", count),
       ("minItems", count0),
       ("uniqueItems", flag),
       ("contains", whole),
       ("maxProperties", count),
       ("minProperties", count0),
       ("required", ref "#/definitions/stringArray"),
       ("additionalProperties", whole),
       ("definitions", schemaObjects),
       ("properties", schemaObjects),
       ("patternProperties", o [("type", s "object"), ("additionalProperties", whole),
         ("propertyNames", o [("format", s "regex")]), ("default", o [])]),
       ("dependencies", o [("type", s "object"), ("additionalProperties",
         o [("anyOf", .arr [whole, ref "#/definitions/stringArray"])])]),
       ("propertyNames", whole),
       ("const", .bool true),
       ("enum", o [("type", s "array"), ("items", .bool true)]),
       ("type", typeMember (ref "#/definitions/simpleTypes")),
       ("format", text),
       ("contentMediaType", text),
       ("contentEncoding", text),
       ("if", whole),
       ("then", whole),
       ("else", whole),
       ("allOf", ref "#/definitions/schemaArray"),
       ("anyOf", ref "#/definitions/schemaArray"),
       ("oneOf", ref "#/definitions/schemaArray"),
       ("not", whole)]),
     ("default", .bool true)]

/-- The draft-06 meta-schema. -/
def draft06 : Json :=
  let whole := ref "#"
  let count := ref "#/definitions/nonNegativeInteger"
  let count0 := ref "#/definitions/nonNegativeIntegerDefault0"
  let schemaObjects := o [("type", s "object"), ("additionalProperties", whole), ("default", emptyObject)]
  o [("$schema", s "http://json-schema.org/draft-06/schema#"),
     ("$id", s "http://json-schema.org/draft-06/schema#"),
     ("definitions", o [
       ("schemaArray", o [("type", s "array"), ("minItems", .num (.int 1)), ("items", whole)]),
       ("nonNegativeInteger", o [("type", s "integer"), ("minimum", .num (.int 0))]),
       ("nonNegativeIntegerDefault0", o [("allOf", .arr [count, o [("default", .num (.int 0))]])]),
       ("simpleTypes", simpleTypes),
       ("stringArray", o [("type", s "array"), ("items", text), ("uniqueItems", .bool true),
         ("default", .arr [])])]),
     ("type", .arr [s "object", s "boolean"]),
     ("properties", o [
       ("$id", o [("type", s "string"), ("format", s "uri-reference")]),
       ("$schema", o [("type", s "string"), ("format", s "uri")]),
       ("$ref", o [("type", s "string"), ("format", s "uri-reference")]),
       ("title", text),
       ("description", text),
       ("default", emptyObject),
       ("examples", o [("type", s "array"), ("items", emptyObject)]),
       ("multipleOf", o [("type", s "number"), ("exclusiveMinimum", .num (.int 0))]),
       ("maximum", number),
       ("exclusiveMaximum", number),
       ("minimum", number),
       ("exclusiveMinimum", number),
       ("maxLength", count),
       ("minLength", count0),
       ("pattern", o [("type", s "string"), ("format", s "regex")]),
       ("additionalItems", whole),
       ("items", o [("anyOf", .arr [whole, ref "#/definitions/schemaArray"]),
         ("default", emptyObject)]),
       ("maxItems", count),
       ("minItems", count0),
       ("uniqueItems", flag),
       ("contains", whole),
       ("maxProperties", count),
       ("minProperties", count0),
       ("required", ref "#/definitions/stringArray"),
       ("additionalProperties", whole),
       ("definitions", schemaObjects),
       ("properties", schemaObjects),
       ("patternProperties", schemaObjects),
       ("dependencies", o [("type", s "object"), ("additionalProperties",
         o [("anyOf", .arr [whole, ref "#/definitions/stringArray"])])]),
       ("propertyNames", whole),
       ("const", emptyObject),
       ("enum", o [("type", s "array"), ("minItems", .num (.int 1)), ("uniqueItems", .bool true)]),
       ("type", typeMember (ref "#/definitions/simpleTypes")),
       ("format", text),
       ("allOf", ref "#/definitions/schemaArray"),
       ("anyOf", ref "#/definitions/schemaArray"),
       ("oneOf", ref "#/definitions/schemaArray"),
       ("not", whole)]),
     ("default", emptyObject)]

/-- The draft-4 meta-schema.  Its identifier is given by `id`, as draft 4
names identifiers, and its bounds are exclusive through the boolean
`exclusiveMinimum` and `exclusiveMaximum` of that draft. -/
def draft04 : Json :=
  let whole := ref "#"
  let count := ref "#/definitions/positiveInteger"
  let count0 := ref "#/definitions/positiveIntegerDefault0"
  let schemaObjects := o [("type", s "object"), ("additionalProperties", whole), ("default", emptyObject)]
  let schemaOrFlag := o [("anyOf", .arr [o [("type", s "boolean")], whole]), ("default", emptyObject)]
  o [("id", s "http://json-schema.org/draft-04/schema#"),
     ("$schema", s "http://json-schema.org/draft-04/schema#"),
     ("definitions", o [
       ("schemaArray", o [("type", s "array"), ("minItems", .num (.int 1)), ("items", whole)]),
       ("positiveInteger", o [("type", s "integer"), ("minimum", .num (.int 0))]),
       ("positiveIntegerDefault0", o [("allOf", .arr [count, o [("default", .num (.int 0))]])]),
       ("simpleTypes", simpleTypes),
       ("stringArray", o [("type", s "array"), ("items", text), ("minItems", .num (.int 1)),
         ("uniqueItems", .bool true)])]),
     ("type", s "object"),
     ("properties", o [
       ("id", text),
       ("$schema", text),
       ("title", text),
       ("description", text),
       ("default", emptyObject),
       ("multipleOf", o [("type", s "number"), ("minimum", .num (.int 0)),
         ("exclusiveMinimum", .bool true)]),
       ("maximum", number),
       ("exclusiveMaximum", flag),
       ("minimum", number),
       ("exclusiveMinimum", flag),
       ("maxLength", count),
       ("minLength", count0),
       ("pattern", o [("type", s "string"), ("format", s "regex")]),
       ("additionalItems", schemaOrFlag),
       ("items", o [("anyOf", .arr [whole, ref "#/definitions/schemaArray"]),
         ("default", emptyObject)]),
       ("maxItems", count),
       ("minItems", count0),
       ("uniqueItems", flag),
       ("maxProperties", count),
       ("minProperties", count0),
       ("required", ref "#/definitions/stringArray"),
       ("additionalProperties", schemaOrFlag),
       ("definitions", schemaObjects),
       ("properties", schemaObjects),
       ("patternProperties", schemaObjects),
       ("dependencies", o [("type", s "object"), ("additionalProperties",
         o [("anyOf", .arr [whole, ref "#/definitions/stringArray"])])]),
       ("enum", o [("type", s "array"), ("minItems", .num (.int 1)), ("uniqueItems", .bool true)]),
       ("type", typeMember (ref "#/definitions/simpleTypes")),
       ("allOf", ref "#/definitions/schemaArray"),
       ("anyOf", ref "#/definitions/schemaArray"),
       ("oneOf", ref "#/definitions/schemaArray"),
       ("not", whole)]),
     ("dependencies", o [("exclusiveMaximum", .arr [s "maximum"]),
       ("exclusiveMinimum", .arr [s "minimum"])]),
     ("default", emptyObject)]

/-- The reference back to the whole draft 2019-09 meta-schema. -/
def recursiveMeta : Json := o [("$recursiveRef", s "#")]

/-- A draft 2019-09 vocabulary meta-schema: its properties and definitions,
and the vocabulary it declares. -/
def vocabulary2019 (name : String) (properties : List (String × Json))
    (defs : List (String × Json)) : Json :=
  o ([("$schema", s "https://json-schema.org/draft/2019-09/schema"),
      ("$id", s ("https://json-schema.org/draft/2019-09/meta/" ++ name)),
      ("$vocabulary", o [("https://json-schema.org/draft/2019-09/vocab/" ++ name, .bool true)]),
      ("$recursiveAnchor", .bool true), schemaType, ("properties", o properties)] ++
    (if defs.isEmpty then [] else [("$defs", o defs)]))

/-- The draft 2019-09 core vocabulary. -/
def core2019 : Json :=
  vocabulary2019 "core"
    [("$id", o [("type", s "string"), ("format", s "uri-reference"), ("pattern", s "^[^#]*#?$")]),
     ("$schema", o [("type", s "string"), ("format", s "uri")]),
     ("$anchor", o [("type", s "string"), ("pattern", s "^[A-Za-z][-A-Za-z0-9.:_]*$")]),
     ("$ref", o [("type", s "string"), ("format", s "uri-reference")]),
     ("$recursiveRef", o [("type", s "string"), ("format", s "uri-reference")]),
     ("$recursiveAnchor", flag),
     ("$vocabulary", o [("type", s "object"),
       ("propertyNames", o [("type", s "string"), ("format", s "uri")]),
       ("additionalProperties", o [("type", s "boolean")])]),
     ("$comment", text),
     ("$defs", o [("type", s "object"), ("additionalProperties", recursiveMeta),
       ("default", emptyObject)])] []

/-- The draft 2019-09 applicator vocabulary. -/
def applicator2019 : Json :=
  let schemaObjects := o [("type", s "object"), ("additionalProperties", recursiveMeta),
    ("default", emptyObject)]
  vocabulary2019 "applicator"
    [("additionalItems", recursiveMeta),
     ("unevaluatedItems", recursiveMeta),
     ("items", o [("anyOf", .arr [recursiveMeta, ref "#/$defs/schemaArray"])]),
     ("contains", recursiveMeta),
     ("additionalProperties", recursiveMeta),
     ("unevaluatedProperties", recursiveMeta),
     ("properties", schemaObjects),
     ("patternProperties", o [("type", s "object"), ("additionalProperties", recursiveMeta),
       ("propertyNames", o [("format", s "regex")]), ("default", emptyObject)]),
     ("dependentSchemas", o [("type", s "object"), ("additionalProperties", recursiveMeta)]),
     ("propertyNames", recursiveMeta),
     ("if", recursiveMeta),
     ("then", recursiveMeta),
     ("else", recursiveMeta),
     ("allOf", ref "#/$defs/schemaArray"),
     ("anyOf", ref "#/$defs/schemaArray"),
     ("oneOf", ref "#/$defs/schemaArray"),
     ("not", recursiveMeta)]
    [("schemaArray", o [("type", s "array"), ("minItems", .num (.int 1)),
      ("items", recursiveMeta)])]

/-- The draft 2019-09 validation vocabulary. -/
def validation2019 : Json :=
  vocabulary2019 "validation"
    [("multipleOf", o [("type", s "number"), ("exclusiveMinimum", .num (.int 0))]),
     ("maximum", number),
     ("exclusiveMaximum", number),
     ("minimum", number),
     ("exclusiveMinimum", number),
     ("maxLength", ref "#/$defs/nonNegativeInteger"),
     ("minLength", ref "#/$defs/nonNegativeIntegerDefault0"),
     ("pattern", o [("type", s "string"), ("format", s "regex")]),
     ("maxItems", ref "#/$defs/nonNegativeInteger"),
     ("minItems", ref "#/$defs/nonNegativeIntegerDefault0"),
     ("uniqueItems", flag),
     ("maxContains", ref "#/$defs/nonNegativeInteger"),
     ("minContains", o [("$ref", s "#/$defs/nonNegativeInteger"), ("default", .num (.int 1))]),
     ("maxProperties", ref "#/$defs/nonNegativeInteger"),
     ("minProperties", ref "#/$defs/nonNegativeIntegerDefault0"),
     ("required", ref "#/$defs/stringArray"),
     ("dependentRequired", o [("type", s "object"),
       ("additionalProperties", ref "#/$defs/stringArray")]),
     ("const", .bool true),
     ("enum", o [("type", s "array"), ("items", .bool true)]),
     ("type", typeMember (ref "#/$defs/simpleTypes"))]
    [("nonNegativeInteger", o [("type", s "integer"), ("minimum", .num (.int 0))]),
     ("nonNegativeIntegerDefault0",
       o [("$ref", s "#/$defs/nonNegativeInteger"), ("default", .num (.int 0))]),
     ("simpleTypes", simpleTypes),
     ("stringArray", o [("type", s "array"), ("items", text), ("uniqueItems", .bool true),
       ("default", .arr [])])]

/-- The draft 2019-09 meta-data vocabulary. -/
def metaData2019 : Json :=
  vocabulary2019 "meta-data"
    [("title", text),
     ("description", text),
     ("default", .bool true),
     ("deprecated", flag),
     ("readOnly", flag),
     ("writeOnly", flag),
     ("examples", o [("type", s "array"), ("items", .bool true)])] []

/-- The draft 2019-09 format vocabulary. -/
def format2019 : Json := vocabulary2019 "format" [("format", text)] []

/-- The draft 2019-09 content vocabulary. -/
def content2019 : Json :=
  vocabulary2019 "content"
    [("contentMediaType", text),
     ("contentEncoding", text),
     ("contentSchema", recursiveMeta)] []

/-- The whole draft 2019-09 meta-schema: all its vocabularies, and the
members that older drafts used. -/
def schema2019 : Json :=
  o [("$schema", s "https://json-schema.org/draft/2019-09/schema"),
     ("$id", s "https://json-schema.org/draft/2019-09/schema"),
     ("$recursiveAnchor", .bool true),
     ("allOf", .arr (["meta/core", "meta/applicator", "meta/validation", "meta/meta-data",
       "meta/format", "meta/content"].map ref)),
     schemaType,
     ("properties", o [
       ("definitions", o [("type", s "object"), ("additionalProperties", recursiveMeta),
         ("default", emptyObject)]),
       ("dependencies", o [("type", s "object"),
         ("additionalProperties", o [("anyOf", .arr [recursiveMeta,
           ref "meta/validation#/$defs/stringArray"])])])])]

/-- The meta-schema documents, each with the URI it is known by. -/
def documents : List (String × Json) :=
  [("https://json-schema.org/draft/2020-12/schema", schema),
   ("https://json-schema.org/draft/2020-12/meta/core", core),
   ("https://json-schema.org/draft/2020-12/meta/applicator", applicator),
   ("https://json-schema.org/draft/2020-12/meta/unevaluated", unevaluated),
   ("https://json-schema.org/draft/2020-12/meta/validation", validation),
   ("https://json-schema.org/draft/2020-12/meta/meta-data", metaData),
   ("https://json-schema.org/draft/2020-12/meta/format-annotation", formatting),
   ("https://json-schema.org/draft/2020-12/meta/content", content),
   ("https://json-schema.org/draft/2019-09/schema", schema2019),
   ("https://json-schema.org/draft/2019-09/meta/core", core2019),
   ("https://json-schema.org/draft/2019-09/meta/applicator", applicator2019),
   ("https://json-schema.org/draft/2019-09/meta/validation", validation2019),
   ("https://json-schema.org/draft/2019-09/meta/meta-data", metaData2019),
   ("https://json-schema.org/draft/2019-09/meta/format", format2019),
   ("https://json-schema.org/draft/2019-09/meta/content", content2019),
   ("http://json-schema.org/draft-07/schema", draft07),
   ("http://json-schema.org/draft-06/schema", draft06),
   ("http://json-schema.org/draft-04/schema", draft04)]

end Meta

end Schema

end Attest
