import TypeCatalog.Definition.Decode
import TypeCatalog.Definition.Encode
import TypeCatalog.TypeMap.Basic

/-!
# Writing and reading type maps

A node is written as an object with its fields in a fixed order. What is absent is left out, and so
is an empty list of examples. Reading accepts the members in any order.

For each sort of node `toJson` writes the members, `fields` says which there are and which of them
have to be there, and `decode` checks a value against `fields` by `Field.members` before it takes
the values out.
-/

set_option autoImplicit false

namespace TypeCatalog

namespace EnumEntry

def toJson (e : EnumEntry) : Json :=
  .object <|
    [("value", .string e.value), ("text", .string e.text)]
    ++ optionalMember "symbol" .string e.symbol
    ++ optionalMember "deprecated" .string e.deprecated
    ++ optionalMember "documentation" .string e.documentation
    ++ optionalMember "data" id e.data

def fields : List Field :=
  [.required "value" Decoder.string, .required "text" Decoder.string,
   .optional "symbol" Decoder.string, .optional "deprecated" Decoder.string,
   .optional "documentation" Decoder.string, .optional "data" Decoder.any]

def decode : Decoder EnumEntry := fun v => do
  let ms ← Field.members "struct EnumItemRef" fields v
  return {
    value := ← Field.get Decoder.string "value" ms
    text := ← Field.get Decoder.string "text" ms
    symbol := ← Field.get? Decoder.string "symbol" ms
    deprecated := ← Field.get? Decoder.string "deprecated" ms
    documentation := ← Field.get? Decoder.string "documentation" ms
    data := ← Field.get? Decoder.any "data" ms }

end EnumEntry

namespace RefNode

def toJson (n : RefNode) : Json :=
  .object <|
    [("system", .string n.system), ("name", .string n.name), ("refTypeName", .string n.target),
     ("refTypeArrayCount", .ofNat n.arrayCount), ("isScalarRef", .bool n.isScalar),
     ("isEnumRef", .bool n.isEnum), ("isRootType", .bool n.isRoot)]
    ++ optionalMember "enumItems" (fun es => .array (es.map EnumEntry.toJson)) n.enumItems
    ++ optionalMember "enumItemDataTypeName" .string n.enumDataType
    ++ if n.examples.isEmpty then [] else [("examples", .array n.examples)]

def fields : List Field :=
  [.required "system" Decoder.string, .required "name" Decoder.string,
   .required "refTypeName" Decoder.string, .required "refTypeArrayCount" Decoder.nat64,
   .required "isScalarRef" Decoder.bool, .required "isEnumRef" Decoder.bool,
   .required "isRootType" Decoder.bool, .optional "enumItems" (Decoder.list EnumEntry.decode),
   .optional "enumItemDataTypeName" Decoder.string,
   .defaulted "examples" (Decoder.list Decoder.any)]

def decode : Decoder RefNode := fun v => do
  let ms ← Field.members "struct RefNode" fields v
  return {
    system := ← Field.get Decoder.string "system" ms
    name := ← Field.get Decoder.string "name" ms
    target := ← Field.get Decoder.string "refTypeName" ms
    arrayCount := ← Field.get Decoder.nat64 "refTypeArrayCount" ms
    isScalar := ← Field.get Decoder.bool "isScalarRef" ms
    isEnum := ← Field.get Decoder.bool "isEnumRef" ms
    isRoot := ← Field.get Decoder.bool "isRootType" ms
    enumItems := ← Field.get? (Decoder.list EnumEntry.decode) "enumItems" ms
    enumDataType := ← Field.get? Decoder.string "enumItemDataTypeName" ms
    examples := ← Field.getOr [] (Decoder.list Decoder.any) "examples" ms }

end RefNode

namespace ObjectProperty

def toJson (p : ObjectProperty) : Json :=
  .object <|
    [("propertyName", .string p.name)]
    ++ optionalMember "documentation" .string p.documentation
    ++ [("refTypeName", .string p.target), ("isRequired", .bool p.isRequired)]

def fields : List Field :=
  [.required "propertyName" Decoder.string, .optional "documentation" Decoder.string,
   .required "refTypeName" Decoder.string, .required "isRequired" Decoder.bool]

def decode : Decoder ObjectProperty := fun v => do
  let ms ← Field.members "struct ObjectProperty" fields v
  return {
    name := ← Field.get Decoder.string "propertyName" ms
    documentation := ← Field.get? Decoder.string "documentation" ms
    target := ← Field.get Decoder.string "refTypeName" ms
    isRequired := ← Field.get Decoder.bool "isRequired" ms }

end ObjectProperty

namespace ObjectNode

def toJson (n : ObjectNode) : Json :=
  .object <|
    [("system", .string n.system), ("name", .string n.name)]
    ++ optionalMember "documentation" .string n.documentation
    ++ [("objectTypeArrayCount", .ofNat n.arrayCount), ("isRootType", .bool n.isRoot),
        ("properties", .array (n.properties.map ObjectProperty.toJson))]

def fields : List Field :=
  [.required "system" Decoder.string, .required "name" Decoder.string,
   .optional "documentation" Decoder.string, .required "objectTypeArrayCount" Decoder.nat64,
   .required "isRootType" Decoder.bool,
   .required "properties" (Decoder.list ObjectProperty.decode)]

def decode : Decoder ObjectNode := fun v => do
  let ms ← Field.members "struct ObjectNode" fields v
  return {
    system := ← Field.get Decoder.string "system" ms
    name := ← Field.get Decoder.string "name" ms
    documentation := ← Field.get? Decoder.string "documentation" ms
    arrayCount := ← Field.get Decoder.nat64 "objectTypeArrayCount" ms
    isRoot := ← Field.get Decoder.bool "isRootType" ms
    properties := ← Field.get (Decoder.list ObjectProperty.decode) "properties" ms }

end ObjectNode

namespace TypeMap

def toJson (m : TypeMap) : Json :=
  .object [("objectTypes", .array (m.objects.map ObjectNode.toJson)),
    ("refTypes", .array (m.refs.map RefNode.toJson))]

def fields : List Field :=
  [.required "objectTypes" (Decoder.list ObjectNode.decode),
   .required "refTypes" (Decoder.list RefNode.decode)]

def decode : Decoder TypeMap := fun v => do
  let ms ← Field.members "struct TypeMap" fields v
  return {
    objects := ← Field.get (Decoder.list ObjectNode.decode) "objectTypes" ms
    refs := ← Field.get (Decoder.list RefNode.decode) "refTypes" ms }

end TypeMap

end TypeCatalog
