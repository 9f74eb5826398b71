import TypeCatalog.Definition.Basic

/-!
# Writing a definition down

The members stand in a fixed order: the kind, the header, and then the fields of the kind. A field
that is not declared is left out.

`optionalMember` writes a field that is declared, also where it is empty. The members of a header
come from `Header.toMembers` and those of a kind from `Body.toMembers`.
-/

set_option autoImplicit false

namespace TypeCatalog

/-- A member that is left out when there is no value. -/
def optionalMember {α : Type} (name : String) (encode : α → Json) (value : Option α) :
    List (String × Json) :=
  match value with
  | some a => [(name, encode a)]
  | none => []

def Example.toJson (e : Example) : Json :=
  .object ([("value", e.value)] ++ optionalMember "summary" .string e.summary)

/-- A list of examples or of test cases. -/
def Example.listToJson (es : List Example) : Json := .array (es.map toJson)

def Header.toMembers (h : Header) : List (String × Json) :=
  [("system", .string h.system), ("name", .string h.name)]
  ++ optionalMember "title" .string h.title
  ++ optionalMember "summary" .string h.summary
  ++ optionalMember "deprecated" .string h.deprecated
  ++ optionalMember "tags" .ofStrings h.tags
  ++ optionalMember "labels" .ofStrings h.labels
  ++ optionalMember "examples" Example.listToJson h.examples

def TestCases.toMembers (c : TestCases) : List (String × Json) :=
  optionalMember "validTestCases" Example.listToJson c.valid
  ++ optionalMember "invalidTestCases" Example.listToJson c.invalid

def EnumItem.toJson (i : EnumItem) : Json :=
  .object <|
    [("value", .string i.value), ("text", .string i.text)]
    ++ optionalMember "symbol" .string i.symbol
    ++ optionalMember "deprecated" .string i.deprecated
    ++ optionalMember "summary" .string i.summary
    ++ optionalMember "data" id i.data

def Property.toJson (p : Property) : Json :=
  .object <|
    [("name", .string p.name)]
    ++ optionalMember "summary" .string p.summary
    ++ [("propertyType", .string p.propertyType)]
    ++ optionalMember "isArray" .bool p.isArray
    ++ optionalMember "isRequired" .bool p.isRequired

def Variant.toJson (v : Variant) : Json :=
  .object <|
    [("name", .string v.name)]
    ++ optionalMember "summary" .string v.summary
    ++ optionalMember "required" .ofStrings v.required
    ++ optionalMember "includeProperties" .ofStrings v.includeProperties
    ++ optionalMember "excludeProperties" .ofStrings v.excludeProperties

def Body.toMembers : Body → List (String × Json)
  | bool c => c.toMembers
  | enum b =>
    [("items", .array (b.items.map EnumItem.toJson))]
    ++ optionalMember "dataType" .string b.dataType
  | int b =>
    [("minimum", .number (.integer b.minimum)), ("maximum", .number (.integer b.maximum))]
    ++ b.cases.toMembers
  | float b =>
    [("minimum", .ofBinary64 b.minimum), ("maximum", .ofBinary64 b.maximum)]
    ++ optionalMember "isMinimumExclusive" .bool b.isMinimumExclusive
    ++ optionalMember "isMaximumExclusive" .bool b.isMaximumExclusive
    ++ b.cases.toMembers
  | string b =>
    optionalMember "regex" .string b.regex
    ++ optionalMember "minimumLength" .ofNat b.minimumLength
    ++ [("maximumLength", .ofNat b.maximumLength)]
    ++ b.cases.toMembers
  | object b => [("jsonSchema", b.schema)] ++ b.cases.toMembers
  | record r =>
    [("properties", .array (r.properties.map Property.toJson))]
    ++ optionalMember "required" .ofStrings r.required
    ++ optionalMember "variants" (fun vs => .array (vs.map Variant.toJson)) r.variants
    ++ [("validTestCases", Example.listToJson r.validCases)]
    ++ optionalMember "invalidTestCases" Example.listToJson r.invalidCases

/-- The written form of a definition. -/
def Definition.toJson (d : Definition) : Json :=
  .object ([("kind", .string d.kind.text)] ++ d.header.toMembers ++ d.body.toMembers)

end TypeCatalog
