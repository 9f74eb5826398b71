import TypeCatalog.Validation.MetaSchema.Parts

/-!
# The schemas of schemas of one document

Up to the seventh version the schema of schemas is a single document. The order of its members is
the order in which faults of a document are looked for.

Each version has its `definitions`, to which `definition` refers, its `properties`, one for each
keyword, and the `schema` that is made of both.
-/

set_option autoImplicit false

/-!
## The fourth version

Here an address is named by `id`, schemas are objects alone, and an exclusive bound is a flag beside
the bound.
-/

namespace TypeCatalog.MetaSchema.Draft4

def address : String := "http://json-schema.org/draft-04/schema"

def definition (name : String) : Json := referenceTo ("#/definitions/" ++ name)
def anySchema : Json := referenceTo "#"
def count : Json := definition "positiveInteger"
def countOrZero : Json := definition "positiveIntegerDefault0"
def schemaList : Json := definition "schemaArray"

/-- A schema, or a boolean in its place. -/
def booleanOrSchema : Json :=
  .object [("anyOf", .array [boolean, anySchema]), default anything]

/-- The parts that other parts refer to. -/
def definitions : Json := .object
  [("schemaArray", listOf anySchema),
   ("positiveInteger", nonNegativeInteger),
   ("positiveIntegerDefault0",
     .object [("allOf", .array [count, .object [default (.ofNat 0)]])]),
   ("simpleTypes", simpleTypes),
   ("stringArray", .object
     [type "array", ("items", text), ("minItems", .ofNat 1), ("uniqueItems", .bool true)])]

/-- What each keyword has to be. -/
def properties : Json := .object
  [("id", text),
   ("$schema", text),
   ("title", text),
   ("description", text),
   ("default", anything),
   ("multipleOf", .object
     [type "number", ("minimum", .ofNat 0), ("exclusiveMinimum", .bool true)]),
   ("maximum", number),
   ("exclusiveMaximum", boolean),
   ("minimum", number),
   ("exclusiveMinimum", boolean),
   ("maxLength", count),
   ("minLength", countOrZero),
   ("pattern", textOf "regex"),
   ("additionalItems", booleanOrSchema),
   ("items", .object [("anyOf", .array [anySchema, schemaList]), default anything]),
   ("maxItems", count),
   ("minItems", countOrZero),
   ("uniqueItems", flag),
   ("maxProperties", count),
   ("minProperties", countOrZero),
   ("required", definition "stringArray"),
   ("additionalProperties", booleanOrSchema),
   ("definitions", mapOf anySchema),
   ("properties", mapOf anySchema),
   ("patternProperties", mapOf anySchema),
   ("dependencies", .object
     [type "object", ("additionalProperties", anyOf [anySchema, definition "stringArray"])]),
   ("enum", .object [type "array", ("minItems", .ofNat 1), ("uniqueItems", .bool true)]),
   ("type", typesAt "#/definitions/simpleTypes"),
   ("format", text),
   ("allOf", schemaList),
   ("anyOf", schemaList),
   ("oneOf", schemaList),
   ("not", anySchema)]

/-- The schema that every schema document of the version has to satisfy. -/
def schema : Json := .object
  [("id", .string (address ++ "#")),
   ("$schema", .string (address ++ "#")),
   ("description", .string "Core schema meta-schema"),
   ("definitions", definitions),
   type "object",
   ("properties", properties),
   ("dependencies", .object
     [("exclusiveMaximum", .ofStrings ["maximum"]), ("exclusiveMinimum", .ofStrings ["minimum"])]),
   default anything]

end TypeCatalog.MetaSchema.Draft4

/-!
## The sixth version

A schema may be a boolean, and an exclusive bound is a number.
-/

namespace TypeCatalog.MetaSchema.Draft6

def address : String := "http://json-schema.org/draft-06/schema"

def definition (name : String) : Json := referenceTo ("#/definitions/" ++ name)
def anySchema : Json := referenceTo "#"
def count : Json := definition "nonNegativeInteger"
def countOrZero : Json := definition "nonNegativeIntegerDefault0"
def schemaList : Json := definition "schemaArray"

/-- The parts that other parts refer to. -/
def definitions : Json := .object
  [("schemaArray", listOf anySchema),
   ("nonNegativeInteger", nonNegativeInteger),
   ("nonNegativeIntegerDefault0",
     .object [("allOf", .array [count, .object [default (.ofNat 0)]])]),
   ("simpleTypes", simpleTypes),
   ("stringArray", stringArray)]

/-- What each keyword has to be. -/
def properties : Json := .object
  [("$id", textOf "uri-reference"),
   ("$schema", textOf "uri"),
   ("$ref", textOf "uri-reference"),
   ("title", text),
   ("description", text),
   ("default", anything),
   ("examples", .object [type "array", ("items", anything)]),
   ("multipleOf", factor),
   ("maximum", number),
   ("exclusiveMaximum", number),
   ("minimum", number),
   ("exclusiveMinimum", number),
   ("maxLength", count),
   ("minLength", countOrZero),
   ("pattern", textOf "regex"),
   ("additionalItems", anySchema),
   ("items", .object [("anyOf", .array [anySchema, schemaList]), default anything]),
   ("maxItems", count),
   ("minItems", countOrZero),
   ("uniqueItems", flag),
   ("contains", anySchema),
   ("maxProperties", count),
   ("minProperties", countOrZero),
   ("required", definition "stringArray"),
   ("additionalProperties", anySchema),
   ("definitions", mapOf anySchema),
   ("properties", mapOf anySchema),
   ("patternProperties", patternMapOf anySchema),
   ("dependencies", .object
     [type "object", ("additionalProperties", anyOf [anySchema, definition "stringArray"])]),
   ("propertyNames", anySchema),
   ("const", anything),
   ("enum", .object [type "array"]),
   ("type", typesAt "#/definitions/simpleTypes"),
   ("format", text),
   ("allOf", schemaList),
   ("anyOf", schemaList),
   ("oneOf", schemaList),
   ("not", anySchema)]

/-- The schema that every schema document of the version has to satisfy. -/
def schema : Json := .object
  [("$schema", .string (address ++ "#")),
   ("$id", .string (address ++ "#")),
   title "Core schema meta-schema",
   ("definitions", definitions),
   objectOrBoolean,
   ("properties", properties),
   default anything]

end TypeCatalog.MetaSchema.Draft6

/-!
## The seventh version

The version in which schema documents are written where they say nothing else.
-/

namespace TypeCatalog.MetaSchema.Draft7

def address : String := "http://json-schema.org/draft-07/schema"

def definition (name : String) : Json := referenceTo ("#/definitions/" ++ name)
def anySchema : Json := referenceTo "#"
def count : Json := definition "nonNegativeInteger"
def countOrZero : Json := definition "nonNegativeIntegerDefault0"
def schemaList : Json := definition "schemaArray"

/-- The parts that other parts refer to. -/
def definitions : Json := .object
  [("schemaArray", listOf anySchema),
   ("nonNegativeInteger", nonNegativeInteger),
   ("nonNegativeIntegerDefault0",
     .object [("allOf", .array [count, .object [default (.ofNat 0)]])]),
   ("simpleTypes", simpleTypes),
   ("stringArray", stringArray)]

/-- What each keyword has to be. -/
def properties : Json := .object
  [("$id", textOf "uri-reference"),
   ("$schema", textOf "uri"),
   ("$ref", textOf "uri-reference"),
   ("$comment", text),
   ("title", text),
   ("description", text),
   ("default", .bool true),
   ("readOnly", flag),
   ("examples", list),
   ("multipleOf", factor),
   ("maximum", number),
   ("exclusiveMaximum", number),
   ("minimum", number),
   ("exclusiveMinimum", number),
   ("maxLength", count),
   ("minLength", countOrZero),
   ("pattern", textOf "regex"),
   ("additionalItems", anySchema),
   ("items", .object [("anyOf", .array [anySchema, schemaList]), default (.bool true)]),
   ("maxItems", count),
   ("minItems", countOrZero),
   ("uniqueItems", flag),
   ("contains", anySchema),
   ("maxProperties", count),
   ("minProperties", countOrZero),
   ("required", definition "stringArray"),
   ("additionalProperties", anySchema),
   ("definitions", mapOf anySchema),
   ("properties", mapOf anySchema),
   ("patternProperties", patternMapOf anySchema),
   ("dependencies", .object
     [type "object", ("additionalProperties", anyOf [anySchema, definition "stringArray"])]),
   ("propertyNames", anySchema),
   ("const", .bool true),
   ("enum", list),
   ("type", typesAt "#/definitions/simpleTypes"),
   ("format", text),
   ("contentMediaType", text),
   ("contentEncoding", text),
   ("if", anySchema),
   ("then", anySchema),
   ("else", anySchema),
   ("allOf", schemaList),
   ("anyOf", schemaList),
   ("oneOf", schemaList),
   ("not", anySchema)]

/-- The schema that every schema document of the version has to satisfy. -/
def schema : Json := .object
  [("$schema", .string (address ++ "#")),
   ("$id", .string (address ++ "#")),
   title "Core schema meta-schema",
   ("definitions", definitions),
   objectOrBoolean,
   ("properties", properties),
   default (.bool true)]

end TypeCatalog.MetaSchema.Draft7
