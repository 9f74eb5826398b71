import TypeCatalog.Validation.MetaSchema.Parts

/-!
# The schema of schemas of 2019

The keywords come in groups, each with a document of its own. The documents refer to each other in
such a way that the outermost one takes the place of the others.

`schema` joins the groups `core`, `applicator`, `validation`, `metaData`, `format` and `content` by
`allOf`, and each of them names the place of a schema by `anySchema`, a `$recursiveRef`.
-/

set_option autoImplicit false

namespace TypeCatalog.MetaSchema.Draft2019

def home : String := "https://json-schema.org/draft/2019-09/"
def address : String := home ++ "schema"

def definition (name : String) : Json := referenceTo ("#/$defs/" ++ name)
def anySchema : Json := .object [("$recursiveRef", .string "#")]
def count : Json := definition "nonNegativeInteger"
def countOrZero : Json := definition "nonNegativeIntegerDefault0"
def schemaList : Json := definition "schemaArray"

/-- Groups of keywords, and whether they have to be understood. -/
def vocabulary (groups : List (String × Bool)) : String × Json :=
  ("$vocabulary", .object (groups.map fun (g, needed) => (home ++ "vocab/" ++ g, .bool needed)))

/-- The members at the beginning of the document of a group. -/
def opening (group name : String) : List (String × Json) :=
  [("$schema", .string address),
   ("$id", .string (home ++ "meta/" ++ group)),
   vocabulary [(group, true)],
   ("$recursiveAnchor", .bool true),
   title (name ++ " vocabulary meta-schema"),
   objectOrBoolean]

/-- The keywords that name schemas and refer to them. -/
def core : Json := .object <| opening "core" "Core" ++
  [("properties", .object
     [("$id", .object
        [type "string", ("format", .string "uri-reference"),
         comment "Non-empty fragments not allowed.", ("pattern", .string "^[^#]*#?$")]),
      ("$schema", textOf "uri"),
      ("$anchor", .object [type "string", ("pattern", .string "^[A-Za-z][-A-Za-z0-9.:_]*$")]),
      ("$ref", textOf "uri-reference"),
      ("$recursiveRef", textOf "uri-reference"),
      ("$recursiveAnchor", flag),
      ("$vocabulary", .object
        [type "object", ("propertyNames", textOf "uri"), ("additionalProperties", boolean)]),
      ("$comment", text),
      ("$defs", mapOf anySchema)])]

/-- The keywords that apply schemas. -/
def applicator : Json := .object <| opening "applicator" "Applicator" ++
  [("properties", .object
     [("additionalItems", anySchema),
      ("unevaluatedItems", anySchema),
      ("items", anyOf [anySchema, schemaList]),
      ("contains", anySchema),
      ("additionalProperties", anySchema),
      ("unevaluatedProperties", anySchema),
      ("properties", mapOf anySchema),
      ("patternProperties", patternMapOf anySchema),
      ("dependentSchemas", .object [type "object", ("additionalProperties", anySchema)]),
      ("propertyNames", anySchema),
      ("if", anySchema),
      ("then", anySchema),
      ("else", anySchema),
      ("allOf", schemaList),
      ("anyOf", schemaList),
      ("oneOf", schemaList),
      ("not", anySchema)]),
   ("$defs", .object [("schemaArray", listOf anySchema)])]

/-- The keywords that look at the value alone. -/
def validation : Json := .object <| opening "validation" "Validation" ++
  [("properties", .object
     [("multipleOf", factor),
      ("maximum", number),
      ("exclusiveMaximum", number),
      ("minimum", number),
      ("exclusiveMinimum", number),
      ("maxLength", count),
      ("minLength", countOrZero),
      ("pattern", textOf "regex"),
      ("maxItems", count),
      ("minItems", countOrZero),
      ("uniqueItems", flag),
      ("maxContains", count),
      ("minContains", .object [reference "#/$defs/nonNegativeInteger", default (.ofNat 1)]),
      ("maxProperties", count),
      ("minProperties", countOrZero),
      ("required", definition "stringArray"),
      ("dependentRequired", .object
        [type "object", ("additionalProperties", definition "stringArray")]),
      ("const", .bool true),
      ("enum", list),
      ("type", typesAt "#/$defs/simpleTypes")]),
   ("$defs", .object
     [("nonNegativeInteger", nonNegativeInteger),
      ("nonNegativeIntegerDefault0", .object
        [reference "#/$defs/nonNegativeInteger", default (.ofNat 0)]),
      ("simpleTypes", simpleTypes),
      ("stringArray", stringArray)])]

/-- The keywords that describe. -/
def metaData : Json := .object <| opening "meta-data" "Meta-data" ++
  [("properties", .object
     [("title", text),
      ("description", text),
      ("default", .bool true),
      ("deprecated", flag),
      ("readOnly", flag),
      ("writeOnly", flag),
      ("examples", list)])]

/-- The keyword for the form of texts. -/
def format : Json := .object <| opening "format" "Format" ++
  [("properties", .object [("format", text)])]

/-- The keywords for what texts hold. -/
def content : Json := .object <| opening "content" "Content" ++
  [("properties", .object
     [("contentMediaType", text),
      ("contentEncoding", text),
      ("contentSchema", anySchema)])]

/-- The schema that every schema document of the version has to satisfy. -/
def schema : Json := .object
  [("$schema", .string address),
   ("$id", .string address),
   vocabulary
     [("core", true), ("applicator", true), ("validation", true), ("meta-data", true),
      ("format", false), ("content", true)],
   ("$recursiveAnchor", .bool true),
   title "Core and Validation specifications meta-schema",
   ("allOf", .array
     (["core", "applicator", "validation", "meta-data", "format", "content"].map fun g =>
       referenceTo ("meta/" ++ g))),
   objectOrBoolean,
   ("properties", .object
     [("definitions", .object
        [comment ("While no longer an official keyword as it is replaced by $defs, this keyword "
           ++ "is retained in the meta-schema to prevent incompatible extensions as it remains in "
           ++ "common use."),
         type "object", ("additionalProperties", anySchema), default anything]),
      ("dependencies", .object
        [comment ("\"dependencies\" is no longer a keyword, but schema authors should avoid "
           ++ "redefining it to facilitate a smooth transition to \"dependentSchemas\" and "
           ++ "\"dependentRequired\""),
         type "object",
         ("additionalProperties",
           anyOf [anySchema, referenceTo "meta/validation#/$defs/stringArray"])])])]

/-- The documents of the version. -/
def documents : List (String × Json) :=
  [(address, schema),
   (home ++ "meta/core", core),
   (home ++ "meta/applicator", applicator),
   (home ++ "meta/validation", validation),
   (home ++ "meta/meta-data", metaData),
   (home ++ "meta/format", format),
   (home ++ "meta/content", content)]

end TypeCatalog.MetaSchema.Draft2019
