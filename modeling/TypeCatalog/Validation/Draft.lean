import TypeCatalog.Json.Basic
import TypeCatalog.Schema.Fragment

/-!
# Versions of the schema language

A `Draft` is a version of the schema language. It decides which keywords hold schemas, how a schema
names itself and the places inside it, and which groups of keywords count. `Draft.detect` finds the
version that a schema says it is written in.
-/

set_option autoImplicit false

namespace TypeCatalog

/-- The versions of the schema language. -/
inductive Draft where
  | draft4
  | draft6
  | draft7
  | draft2019
  | draft2020
deriving DecidableEq, Inhabited

/-- The groups of keywords that the later versions tell apart and a schema may leave out. -/
inductive Vocabulary where
  /-- Keywords that apply schemas. -/
  | applicator
  /-- Keywords that apply schemas to what no other keyword has looked at. -/
  | unevaluated
  /-- Keywords that look at the value alone. -/
  | validation
deriving DecidableEq

/-- How the value of a keyword holds schemas. -/
inductive Holding where
  | schema
  /-- A schema, unless it is written as a boolean. -/
  | objectSchema
  | list
  | schemaOrList
  | named
deriving DecidableEq

namespace Draft

/-! ## Versions -/

def all : List Draft := [draft4, draft6, draft7, draft2019, draft2020]

/-- The place of a version among all of them. -/
def rank : Draft → Nat
  | draft4 => 0
  | draft6 => 1
  | draft7 => 2
  | draft2019 => 3
  | draft2020 => 4

/-- Whether a version is another one or a later one. -/
def isSince (d since : Draft) : Bool := decide (since.rank ≤ d.rank)

/-- What the addresses of all documents of a version begin with. -/
def home : Draft → String
  | draft4 => "http://json-schema.org/draft-04/"
  | draft6 => "http://json-schema.org/draft-06/"
  | draft7 => "http://json-schema.org/draft-07/"
  | draft2019 => "https://json-schema.org/draft/2019-09/"
  | draft2020 => "https://json-schema.org/draft/2020-12/"

/-- The address of the schema that the schemas of a version satisfy. -/
def address (d : Draft) : String := d.home ++ "schema"

/-- Whether a reference leads to a document of some version. -/
def isSpecification (reference : String) : Bool :=
  all.any fun d => d.home.toList.isPrefixOf reference.toList

/-- A text without the number signs at its end. -/
def trimNumberSigns (s : String) : String :=
  String.ofList (s.toList.reverse.dropWhile (· = '#')).reverse

/-- The version that a schema says it is written in; the given one where it says nothing. The text
of an unknown version is the error. -/
def detect (d : Draft) (schema : Json) : Except String Draft :=
  match (schema.member? "$schema").bind Json.string? with
  | none => .ok d
  | some s =>
    let text := trimNumberSigns s
    match all.find? (·.address = text) with
    | some found => .ok found
    | none => .error text

/-- The version of a schema inside one of a given version. One in an unknown version is taken to be
in the latest. -/
def within (d : Draft) (schema : Json) : Draft :=
  match d.detect schema with
  | .ok found => found
  | .error _ => draft2020

/-- The groups of keywords that a version tells apart. The early ones tell none. -/
def vocabularies : Draft → List Vocabulary
  | draft2019 => [.applicator, .validation]
  | draft2020 => [.applicator, .unevaluated, .validation]
  | _ => []

/-- The groups of keywords that count in a schema of a version, which may say that it is written in
another one. -/
def vocabulariesOf (d : Draft) (schema : Json) : List Vocabulary :=
  match d.detect schema with
  | .ok found => found.vocabularies
  | .error _ => d.vocabularies

/-! ## Keywords -/

/-- The keywords that a version adds to the earlier ones, of those that look at the value alone. -/
def validationAddedBy : Draft → List String
  | draft4 =>
    ["enum", "maxItems", "maxLength", "maxProperties", "maximum", "minItems", "minLength",
      "minProperties", "minimum", "multipleOf", "pattern", "required", "type", "uniqueItems"]
  | draft6 => ["const", "exclusiveMaximum", "exclusiveMinimum"]
  | draft2019 => ["dependentRequired"]
  | _ => []

/-- The keywords that a version adds to the earlier ones, of those that apply schemas. -/
def applicatorAddedBy : Draft → List String
  | draft4 =>
    ["additionalItems", "additionalProperties", "allOf", "anyOf", "items", "not", "oneOf",
      "patternProperties", "properties"]
  | draft6 => ["contains", "propertyNames"]
  | draft7 => ["else", "if", "then"]
  | draft2019 => ["dependentSchemas"]
  | draft2020 => ["prefixItems"]

/-- The keywords that are in no group. -/
def ungroupedKeywords : Draft → List String
  | draft4 => ["$ref", "dependencies", "format"]
  | draft6 => ["$ref", "contentEncoding", "contentMediaType", "dependencies", "format"]
  | draft7 => ["$ref", "contentEncoding", "contentMediaType", "dependencies", "format"]
  | draft2019 => ["$recursiveRef", "$ref", "dependencies", "format"]
  | draft2020 => ["$dynamicRef", "$ref", "dependencies", "format"]

/-- Whether a keyword means something where some groups of keywords count. In the early versions all
groups count. -/
def knows (d : Draft) (counted : List Vocabulary) (keyword : String) : Bool :=
  let counts (v : Vocabulary) : Bool := !d.isSince draft2019 || counted.contains v
  let isAddedBy (added : Draft → List String) : Bool :=
    all.any fun e => d.isSince e && (added e).contains keyword
  d.ungroupedKeywords.contains keyword
    || (counts .validation && isAddedBy validationAddedBy)
    || (counts .applicator && isAddedBy applicatorAddedBy
      && !(d = draft2020 && keyword = "additionalItems"))
    || (d.isSince draft2019 && counts (if d = draft2020 then .unevaluated else .applicator)
      && ["unevaluatedItems", "unevaluatedProperties"].contains keyword)

/-! ## Schemas inside schemas -/

/-- The keywords whose values are schemas. -/
def schemaKeywords : Draft → List String
  | draft4 => ["not"]
  | draft6 => ["additionalItems", "additionalProperties", "contains", "not", "propertyNames"]
  | draft7 =>
    ["additionalItems", "additionalProperties", "contains", "else", "if", "not", "propertyNames",
      "then"]
  | draft2019 =>
    ["additionalItems", "additionalProperties", "contains", "contentSchema", "else", "if", "not",
      "propertyNames", "then", "unevaluatedItems", "unevaluatedProperties"]
  | draft2020 =>
    ["additionalProperties", "contains", "contentSchema", "else", "if", "items", "not",
      "propertyNames", "then", "unevaluatedItems", "unevaluatedProperties"]

/-- The keywords whose values are lists of schemas. -/
def listKeywords (d : Draft) : List String :=
  ["allOf", "anyOf", "oneOf"] ++ if d = draft2020 then ["prefixItems"] else []

/-- The keywords whose values are schemas with names. -/
def namedKeywords (d : Draft) : List String :=
  ["definitions", "patternProperties", "properties"]
    ++ if d.isSince draft2019 then ["$defs", "dependentSchemas"] else []

/-- How a keyword holds schemas. -/
def holding? (d : Draft) (keyword : String) : Option Holding :=
  if d.schemaKeywords.contains keyword then some .schema
  else if d.listKeywords.contains keyword then some .list
  else if d.namedKeywords.contains keyword then some .named
  else if keyword = "items" then some .schemaOrList
  else if keyword = "dependencies" && !d.isSince draft2019 then some .named
  else if d = draft4 && ["additionalItems", "additionalProperties"].contains keyword then
    some .objectSchema
  else none

/-- The schemas that a keyword holds. -/
def schemasOf (d : Draft) (member : String × Json) : List Json :=
  match d.holding? member.1, member.2 with
  | some .schema, v => [v]
  | some .objectSchema, .object ms => [.object ms]
  | some .list, .array xs => xs
  | some .schemaOrList, .array xs => xs
  | some .schemaOrList, v => [v]
  | some .named, .object ms => ms.map (·.2)
  | _, _ => []

/-- The schemas directly inside a schema. -/
def subschemas (d : Draft) (schema : Json) : List Json :=
  (schema.members?.getD []).flatMap d.schemasOf

/-- The keywords that hold a schema of their own, however it is written. -/
def isSchemaKeyword (d : Draft) (keyword : String) : Bool :=
  [some .schema, some .objectSchema].contains (d.holding? keyword)

/-- The keywords that hold several schemas. -/
def isParentKeyword (d : Draft) (keyword : String) : Bool :=
  d.listKeywords.contains keyword || d.namedKeywords.contains keyword

/-- Whether steps by names and indices lead from a schema to a schema inside it, which may itself be
inside others. The place that they lead to is an object or not. -/
def leadsToSchema (d : Draft) (isObject : Bool) : List (Option String) → Bool
  | [] => true
  | none :: path => leadsToSchema d isObject path
  | some k :: path =>
    if isObject && ((k = "items" && d != draft2020)
        || (k = "dependencies" && !d.isSince draft2019)) then true
    else if d.isSchemaKeyword k then leadsToSchema d isObject path
    else if d.isParentKeyword k then
      match path with
      | [] => false
      | _ :: path => leadsToSchema d isObject path
    else false

/-! ## Names -/

/-- The text by which a schema names itself. In the early versions a reference names nothing, and a
number sign begins the name of a place. -/
def idText? (d : Draft) (schema : Json) : Option String :=
  let text := (schema.member? (if d = draft4 then "id" else "$id")).bind Json.string?
  if d.isSince draft2019 then text
  else if (schema.member? "$ref").isSome then none
  else text.filter fun s => !Fragment.isLocal s

/-- The address that a schema gives itself. -/
def ownAddress? (d : Draft) (schema : Json) : Option String :=
  (d.idText? schema).map trimNumberSigns

/-- The names by which a schema may be referred to inside its document, and whether schemas around
may take its place. -/
def anchors (d : Draft) (schema : Json) : List (String × Bool) :=
  let text (keyword : String) : Option String := (schema.member? keyword).bind Json.string?
  match d with
  | draft2020 =>
    ((text "$anchor").map (·, false)).toList ++ ((text "$dynamicAnchor").map (·, true)).toList
  | draft2019 => ((text "$anchor").map (·, false)).toList
  | _ =>
    let id := (text (if d = draft4 then "id" else "$id")).filter Fragment.isLocal
    (id.map fun s => (String.ofList s.toList.tail, false)).toList

end Draft

end TypeCatalog
