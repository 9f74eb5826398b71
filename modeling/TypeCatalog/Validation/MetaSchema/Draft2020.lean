import TypeCatalog.Validation.MetaSchema.Parts

/-!
# The schema of schemas of 2020

The keywords come in groups, each with a document of its own, and a named place in each document is
the one that the outermost document takes over.

`schema` joins `groups` by `allOf`: `core`, `applicator`, `unevaluated`, `validation`, `metaData`,
`formatAnnotation` and `content`. Each names the place of a schema by `anySchema`, a `$dynamicRef`.
-/

set_option autoImplicit false

namespace TypeCatalog.MetaSchema.Draft2020

def home : String := "https://json-schema.org/draft/2020-12/"
def address : String := home ++ "schema"

def definition (name : String) : Json := referenceTo ("#/$defs/" ++ name)
def anySchema : Json := .object [("$dynamicRef", .string "#meta")]
def count : Json := definition "nonNegativeInteger"
def countOrZero : Json := definition "nonNegativeIntegerDefault0"
def schemaList : Json := definition "schemaArray"
def deprecated : String × Json := ("deprecated", .bool true)

/-- Groups of keywords, which all have to be understood. -/
def vocabulary (groups : List String) : String × Json :=
  ("$vocabulary", .object (groups.map fun g => (home ++ "vocab/" ++ g, .bool true)))

/-- The members at the beginning of the document of a group. -/
def opening (group name : String) : List (String × Json) :=
  [("$schema", .string address),
   ("$id", .string (home ++ "meta/" ++ group)),
   vocabulary [group],
   ("$dynamicAnchor", .string "meta"),
   title (name ++ " meta-schema"),
   objectOrBoolean]

/-- The keywords that name schemas and refer to them. -/
def core : Json := .object <| opening "core" "Core vocabulary" ++
  [("properties", .object
     [("$id", .object
        [reference "#/$defs/uriReferenceString", comment "Non-empty fragments not allowed.",
         ("pattern", .string "^[^#]*#?$")]),
      ("$schema", definition "uriString"),
      ("$ref", definition "uriReferenceString"),
      ("$anchor", definition "anchorString"),
      ("$dynamicRef", definition "uriReferenceString"),
      ("$dynamicAnchor", definition "anchorString"),
      ("$vocabulary", .object
        [type "object", ("propertyNames", definition "uriString"),
         ("additionalProperties", boolean)]),
      ("$comment", text),
      ("$defs", .object [type "object", ("additionalProperties", anySchema)])]),
   ("$defs", .object
     [("anchorString", .object
        [type "string", ("pattern", .string "^[A-Za-z_][-A-Za-z0-9._]*$")]),
      ("uriString", textOf "uri"),
      ("uriReferenceString", textOf "uri-reference")])]

/-- The keywords that apply schemas. -/
def applicator : Json := .object <| opening "applicator" "Applicator vocabulary" ++
  [("properties", .object
     [("prefixItems", schemaList),
      ("items", anySchema),
      ("contains", anySchema),
      ("additionalProperties", anySchema),
      ("properties", mapOf anySchema),
      ("patternProperties", patternMapOf anySchema),
      ("dependentSchemas", mapOf anySchema),
      ("propertyNames", anySchema),
      ("if", anySchema),
      ("then", anySchema),
      ("else", anySchema),
      ("allOf", schemaList),
      ("anyOf", schemaList),
      ("oneOf", schemaList),
      ("not", anySchema)]),
   ("$defs", .object [("schemaArray", listOf anySchema)])]

/-- The keywords that apply schemas to what no other keyword has looked at. -/
def unevaluated : Json := .object <| opening "unevaluated" "Unevaluated applicator vocabulary" ++
  [("properties", .object
     [("unevaluatedItems", anySchema), ("unevaluatedProperties", anySchema)])]

/-- The keywords that look at the value alone. -/
def validation : Json := .object <| opening "validation" "Validation vocabulary" ++
  [("properties", .object
     [("type", typesAt "#/$defs/simpleTypes"),
      ("const", .bool true),
      ("enum", list),
      ("multipleOf", factor),
      ("maximum", number),
      ("exclusiveMaximum", number),
      ("minimum", number),
      ("exclusiveMinimum", number),
      ("maxLength", count),
      ("minLength", countOrZero),
      ("pattern", textOf "regex"),
      ("maxItems", count),
      ("minItems", countOrZero),
      ("uniqueItems", flag),
      ("maxContains", count),
      ("minContains", .object [reference "#/$defs/nonNegativeInteger", default (.ofNat 1)]),
      ("maxProperties", count),
      ("minProperties", countOrZero),
      ("required", definition "stringArray"),
      ("dependentRequired", .object
        [type "object", ("additionalProperties", definition "stringArray")])]),
   ("$defs", .object
     [("nonNegativeInteger", nonNegativeInteger),
      ("nonNegativeIntegerDefault0", .object
        [reference "#/$defs/nonNegativeInteger", default (.ofNat 0)]),
      ("simpleTypes", simpleTypes),
      ("stringArray", stringArray)])]

/-- The keywords that describe. -/
def metaData : Json := .object <| opening "meta-data" "Meta-data vocabulary" ++
  [("properties", .object
     [("title", text),
      ("description", text),
      ("default", .bool true),
      ("deprecated", flag),
      ("readOnly", flag),
      ("writeOnly", flag),
      ("examples", list)])]

/-- The keyword for the form of texts. -/
def formatAnnotation : Json :=
  .object <| opening "format-annotation" "Format vocabulary meta-schema for annotation results" ++
    [("properties", .object [("format", text)])]

/-- The keywords for what texts hold. -/
def content : Json := .object <| opening "content" "Content vocabulary" ++
  [("properties", .object
     [("contentEncoding", text),
      ("contentMediaType", text),
      ("contentSchema", anySchema)])]

/-- The groups of keywords. -/
def groups : List String :=
  ["core", "applicator", "unevaluated", "validation", "meta-data", "format-annotation", "content"]

/-- The schema that every schema document of the version has to satisfy. -/
def schema : Json := .object
  [("$schema", .string address),
   ("$id", .string address),
   vocabulary groups,
   ("$dynamicAnchor", .string "meta"),
   title "Core and Validation specifications meta-schema",
   ("allOf", .array (groups.map fun g => referenceTo ("meta/" ++ g))),
   objectOrBoolean,
   comment ("This meta-schema also defines keywords that have appeared in previous drafts in order "
     ++ "to prevent incompatible extensions as they remain in common use."),
   ("properties", .object
     [("definitions", .object
        [comment "\"definitions\" has been replaced by \"$defs\".", type "object",
         ("additionalProperties", anySchema), deprecated, default anything]),
      ("dependencies", .object
        [comment ("\"dependencies\" has been split and replaced by \"dependentSchemas\" and "
           ++ "\"dependentRequired\" in order to serve their differing semantics."),
         type "object",
         ("additionalProperties",
           anyOf [anySchema, referenceTo "meta/validation#/$defs/stringArray"]),
         deprecated, default anything]),
      ("$recursiveAnchor", .object
        [comment "\"$recursiveAnchor\" has been replaced by \"$dynamicAnchor\".",
         reference "meta/core#/$defs/anchorString", deprecated]),
      ("$recursiveRef", .object
        [comment "\"$recursiveRef\" has been replaced by \"$dynamicRef\".",
         reference "meta/core#/$defs/uriReferenceString", deprecated])])]

/-- The documents of the version. -/
def documents : List (String × Json) :=
  [(address, schema),
   (home ++ "meta/core", core),
   (home ++ "meta/applicator", applicator),
   (home ++ "meta/unevaluated", unevaluated),
   (home ++ "meta/validation", validation),
   (home ++ "meta/meta-data", metaData),
   (home ++ "meta/format-annotation", formatAnnotation),
   (home ++ "meta/content", content)]

end TypeCatalog.MetaSchema.Draft2020
