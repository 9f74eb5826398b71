import TypeCatalog.Json.Basic

/-!
# Parts of schemas of schemas

The schemas that describe schemas are made of a few parts, which all versions of the schema language
share.

`referenceTo`, `listOf`, `mapOf` and `patternMapOf` make a schema of parts; `type`, `default` and
the like are single members.
-/

set_option autoImplicit false

namespace TypeCatalog.MetaSchema

/-! ## Members -/

def reference (target : String) : String × Json := ("$ref", .string target)
def type (name : String) : String × Json := ("type", .string name)
def default (v : Json) : String × Json := ("default", v)
def title (text : String) : String × Json := ("title", .string text)
def comment (text : String) : String × Json := ("$comment", .string text)

/-- A schema is an object or a boolean. -/
def objectOrBoolean : String × Json := ("type", .ofStrings ["object", "boolean"])

/-! ## Schemas -/

/-- The schema that everything satisfies, as an object. -/
def anything : Json := .object []

def referenceTo (target : String) : Json := .object [reference target]
def text : Json := .object [type "string"]
def number : Json := .object [type "number"]
def boolean : Json := .object [type "boolean"]
def textOf (format : String) : Json := .object [type "string", ("format", .string format)]
def flag : Json := .object [type "boolean", default (.bool false)]
def anyOf (ss : List Json) : Json := .object [("anyOf", .array ss)]

/-- A list of anything. -/
def list : Json := .object [type "array", ("items", .bool true)]

/-- A list of schemas, at least one. -/
def listOf (s : Json) : Json := .object [type "array", ("minItems", .ofNat 1), ("items", s)]

/-- Schemas by names. -/
def mapOf (s : Json) : Json :=
  .object [type "object", ("additionalProperties", s), default (.object [])]

/-- Schemas by patterns. -/
def patternMapOf (s : Json) : Json :=
  .object
    [type "object", ("additionalProperties", s),
     ("propertyNames", .object [("format", .string "regex")]), default (.object [])]

/-- A factor above zero. -/
def factor : Json := .object [type "number", ("exclusiveMinimum", .ofNat 0)]

def nonNegativeInteger : Json := .object [type "integer", ("minimum", .ofNat 0)]

/-- The names of the types. -/
def simpleTypes : Json :=
  .object [("enum", .ofStrings
    ["array", "boolean", "integer", "null", "number", "object", "string"])]

/-- A list of different texts. -/
def stringArray : Json :=
  .object [type "array", ("items", text), ("uniqueItems", .bool true), default (.array [])]

/-- The name of a type, or a list of several. The names stand at a place. -/
def typesAt (place : String) : Json :=
  anyOf
    [referenceTo place,
     .object [type "array", ("items", referenceTo place), ("minItems", .ofNat 1),
       ("uniqueItems", .bool true)]]

end TypeCatalog.MetaSchema
