import TypeCatalog.Definition.Violation
import TypeCatalog.Definition.Basic
import TypeCatalog.Json.Decimal
import TypeCatalog.Text.Quoted

/-!
# Reading a definition

`Definition.decode` turns a JSON value into a definition. It looks at the kind first, then at the
fields of the kind, and last at the header. Among the fields, a value that does not fit is noticed
in the order of the members, and before any field that is missing. Members with unknown names are
passed over, and `null` stands for an optional field that is absent.

The parts of a definition are objects; each may also be written as a list of its values in the order
of its fields.

Each part has its `fields`, and a `decode` that checks them by `Field.members` before it takes the
values out (`Field.get`, `Field.get?`, `Field.getOr`). `Misfit.message` is the wording of what did
not fit, and `Misfit.path` tells only a wrong `kind` apart.
-/

set_option autoImplicit false

namespace TypeCatalog

/-- Why a value is no definition. -/
inductive Misfit where
  /-- A value of another type was expected. -/
  | type (found : Json) (expected : String)
  /-- The value is of the right type, but out of range. -/
  | value (found : Json) (expected : String)
  /-- A list has the wrong number of values. -/
  | length (found : Nat) (expected : String)
  /-- A field is missing. -/
  | missing (field : String)
  /-- The kind is no text. -/
  | kindType (found : Json)
  /-- There is no such kind. -/
  | unknownKind (found : String)
deriving DecidableEq, Inhabited

namespace Misfit

/-- The word for a value inside a message. -/
def describe : Json → String
  | .null => "null"
  | .bool b => "boolean `" ++ (if b then "true" else "false") ++ "`"
  | .number (.integer n) => "integer `" ++ toString n ++ "`"
  | .number (.real x) => "floating point `" ++ x.text ++ "`"
  | .string s => "string " ++ Text.quoted s
  | .array _ => "sequence"
  | .object _ => "map"

/-- The wording of a misfit. -/
def message : Misfit → String
  | type found expected => "invalid type: " ++ describe found ++ ", expected " ++ expected
  | value found expected => "invalid value: " ++ describe found ++ ", expected " ++ expected
  | length found expected => "invalid length " ++ toString found ++ ", expected " ++ expected
  | missing field => "missing field `" ++ field ++ "`"
  | kindType found => "invalid type: " ++ describe found ++ ", expected variant identifier"
  | unknownKind found =>
    "unknown variant `" ++ found ++ "`, expected one of "
      ++ ", ".intercalate (TypeKind.all.map fun k => "`" ++ k.text ++ "`")

/-- The place of a misfit: only a wrong kind is told apart. -/
def path : Misfit → String
  | kindType _ => "kind"
  | unknownKind _ => "kind"
  | _ => "."

/-- The violation that a misfit is. -/
def toViolation (m : Misfit) : Violation := .plain .shape m.path m.message

end Misfit

/-- A way to read values. -/
abbrev Decoder (α : Type) := Json → Except Misfit α

namespace Decoder

def any : Decoder Json := .ok

def string : Decoder String
  | .string s => .ok s
  | v => .error (.type v "a string")

def bool : Decoder Bool
  | .bool b => .ok b
  | v => .error (.type v "a boolean")

def int64 : Decoder Int
  | .number (.integer n) =>
    if Number.fitsInt64 n then .ok n else .error (.value (.number (.integer n)) "i64")
  | v => .error (.type v "i64")

def nat64 : Decoder Nat
  | .number (.integer n) =>
    if Number.fitsNat64 n then .ok n.toNat else .error (.value (.number (.integer n)) "u64")
  | v => .error (.type v "u64")

def binary64 : Decoder Binary64
  | .number n => .ok n.toBinary64
  | v => .error (.type v "f64")

/-- A list, whose items are read one after the other. -/
def list {α : Type} (item : Decoder α) : Decoder (List α)
  | .array xs => xs.mapM item
  | v => .error (.type v "a sequence")

/-- `null`, or a value. -/
def optional {α : Type} (item : Decoder α) : Decoder (Option α)
  | .null => .ok none
  | v => (item v).map some

end Decoder

/-- A field of an object: whether it has to be there, and how its value is checked. -/
structure Field where
  name : String
  isRequired : Bool
  check : Decoder Unit

namespace Field

/-- A field that has to be there. -/
def required {α : Type} (name : String) (d : Decoder α) : Field :=
  ⟨name, true, fun v => (d v).map fun _ => ()⟩

/-- A field that may be absent. -/
def optional {α : Type} (name : String) (d : Decoder α) : Field :=
  ⟨name, false, fun v => ((Decoder.optional d) v).map fun _ => ()⟩

/-- A field that may be absent, but not `null`. -/
def defaulted {α : Type} (name : String) (d : Decoder α) : Field :=
  ⟨name, false, fun v => (d v).map fun _ => ()⟩

/-- Checks members in their order; those that are no field pass. -/
def checkMembers (fields : List Field) : List (String × Json) → Except Misfit Unit
  | [] => .ok ()
  | (k, v) :: ms =>
    match fields.find? (·.name = k) with
    | some f => do
      f.check v
      checkMembers fields ms
    | none => checkMembers fields ms

/-- The first field that has to be there and is not. -/
def missing? (fields : List Field) (ms : List (String × Json)) : Option Field :=
  fields.find? fun f => f.isRequired && (ms.lookup f.name).isNone

/-- The place among the fields of the first one that has to be there and is not. -/
def missingPlace? (fields : List Field) (ms : List (String × Json)) : Option Nat :=
  fields.findIdx? fun f => f.isRequired && (ms.lookup f.name).isNone

/-- Checks members, and then whether one is missing. -/
def checkAll (fields : List Field) (ms : List (String × Json)) : Except Misfit Unit := do
  checkMembers fields ms
  match missing? fields ms with
  | some f => .error (.missing f.name)
  | none => .ok ()

/-- A number of elements in words. -/
def elements (n : Nat) : String := toString n ++ if n = 1 then " element" else " elements"

/-- The members of a part that is an object or a list of values. -/
def members (part : String) (fields : List Field) : Decoder (List (String × Json))
  | .object ms => do
    checkAll fields ms
    return ms
  | .array xs => do
    let ms := (fields.map (·.name)).zip xs
    checkMembers fields ms
    match missingPlace? fields ms with
    | some i => .error (.length i (part ++ " with " ++ elements fields.length))
    | none =>
      if fields.length < xs.length then
        .error (.length xs.length (elements fields.length ++ " in sequence"))
      else return ms
  | v => .error (.type v part)

/-- The value of a field that has to be there. -/
def get {α : Type} (d : Decoder α) (name : String) (ms : List (String × Json)) : Except Misfit α :=
  match ms.lookup name with
  | some v => d v
  | none => .error (.missing name)

/-- The value of a field that may be absent. -/
def get? {α : Type} (d : Decoder α) (name : String) (ms : List (String × Json)) :
    Except Misfit (Option α) :=
  match ms.lookup name with
  | some v => Decoder.optional d v
  | none => .ok none

/-- The value of a field that may be absent, but not `null`. -/
def getOr {α : Type} (default : α) (d : Decoder α) (name : String) (ms : List (String × Json)) :
    Except Misfit α :=
  match ms.lookup name with
  | some v => d v
  | none => .ok default

end Field

def Example.fields : List Field :=
  [.required "value" Decoder.any, .optional "summary" Decoder.string]

def Example.decode : Decoder Example := fun v => do
  let ms ← Field.members "struct TestCase" fields v
  return {
    value := ← Field.get Decoder.any "value" ms
    summary := ← Field.get? Decoder.string "summary" ms }

/-- A list of examples or of test cases. -/
def Example.decodeList : Decoder (List Example) := Decoder.list decode

/-- A list of texts. -/
def Decoder.strings : Decoder (List String) := Decoder.list Decoder.string

def EnumItem.fields : List Field :=
  [.required "value" Decoder.string, .required "text" Decoder.string,
   .optional "symbol" Decoder.string, .optional "deprecated" Decoder.string,
   .optional "summary" Decoder.string, .optional "data" Decoder.any]

def EnumItem.decode : Decoder EnumItem := fun v => do
  let ms ← Field.members "struct EnumItemDef" fields v
  return {
    value := ← Field.get Decoder.string "value" ms
    text := ← Field.get Decoder.string "text" ms
    symbol := ← Field.get? Decoder.string "symbol" ms
    deprecated := ← Field.get? Decoder.string "deprecated" ms
    summary := ← Field.get? Decoder.string "summary" ms
    data := ← Field.get? Decoder.any "data" ms }

def Property.fields : List Field :=
  [.required "name" Decoder.string, .optional "summary" Decoder.string,
   .required "propertyType" Decoder.string, .optional "isArray" Decoder.bool,
   .optional "isRequired" Decoder.bool]

def Property.decode : Decoder Property := fun v => do
  let ms ← Field.members "struct PropertyDef" fields v
  return {
    name := ← Field.get Decoder.string "name" ms
    summary := ← Field.get? Decoder.string "summary" ms
    propertyType := ← Field.get Decoder.string "propertyType" ms
    isArray := ← Field.get? Decoder.bool "isArray" ms
    isRequired := ← Field.get? Decoder.bool "isRequired" ms }

def Variant.fields : List Field :=
  [.required "name" Decoder.string, .optional "summary" Decoder.string,
   .optional "required" Decoder.strings, .optional "includeProperties" Decoder.strings,
   .optional "excludeProperties" Decoder.strings]

def Variant.decode : Decoder Variant := fun v => do
  let ms ← Field.members "struct RecordVariantDef" fields v
  return {
    name := ← Field.get Decoder.string "name" ms
    summary := ← Field.get? Decoder.string "summary" ms
    required := ← Field.get? Decoder.strings "required" ms
    includeProperties := ← Field.get? Decoder.strings "includeProperties" ms
    excludeProperties := ← Field.get? Decoder.strings "excludeProperties" ms }

def Header.fields : List Field :=
  [.required "system" Decoder.string, .required "name" Decoder.string,
   .optional "title" Decoder.string, .optional "summary" Decoder.string,
   .optional "deprecated" Decoder.string, .optional "tags" Decoder.strings,
   .optional "labels" Decoder.strings, .optional "examples" Example.decodeList]

/-- The header among the members of a definition. -/
def Header.decode (ms : List (String × Json)) : Except Misfit Header := do
  Field.checkAll fields ms
  return {
    system := ← Field.get Decoder.string "system" ms
    name := ← Field.get Decoder.string "name" ms
    title := ← Field.get? Decoder.string "title" ms
    summary := ← Field.get? Decoder.string "summary" ms
    deprecated := ← Field.get? Decoder.string "deprecated" ms
    tags := ← Field.get? Decoder.strings "tags" ms
    labels := ← Field.get? Decoder.strings "labels" ms
    examples := ← Field.get? Example.decodeList "examples" ms }

def TestCases.fields : List Field :=
  [.optional "validTestCases" Example.decodeList, .optional "invalidTestCases" Example.decodeList]

def TestCases.decode (ms : List (String × Json)) : Except Misfit TestCases := do
  return {
    valid := ← Field.get? Example.decodeList "validTestCases" ms
    invalid := ← Field.get? Example.decodeList "invalidTestCases" ms }

/-- The fields of a kind, in the order in which a missing one is reported. -/
def Body.fields : TypeKind → List Field
  | .bool => TestCases.fields
  | .enum =>
    [.required "items" (Decoder.list EnumItem.decode), .optional "dataType" Decoder.string]
  | .int =>
    [.required "minimum" Decoder.int64, .required "maximum" Decoder.int64] ++ TestCases.fields
  | .float =>
    [.required "minimum" Decoder.binary64, .required "maximum" Decoder.binary64,
     .optional "isMinimumExclusive" Decoder.bool, .optional "isMaximumExclusive" Decoder.bool]
    ++ TestCases.fields
  | .string =>
    [.optional "regex" Decoder.string, .optional "minimumLength" Decoder.nat64,
     .required "maximumLength" Decoder.nat64] ++ TestCases.fields
  | .object => [.required "jsonSchema" Decoder.any] ++ TestCases.fields
  | .record =>
    [.required "properties" (Decoder.list Property.decode), .optional "required" Decoder.strings,
     .optional "variants" (Decoder.list Variant.decode),
     .required "validTestCases" Example.decodeList,
     .optional "invalidTestCases" Example.decodeList]

/-- The body of a kind among the members of a definition. -/
def Body.decode (kind : TypeKind) (ms : List (String × Json)) : Except Misfit Body := do
  Field.checkAll (fields kind) ms
  match kind with
  | .bool => return .bool (← TestCases.decode ms)
  | .enum =>
    return .enum {
      items := ← Field.get (Decoder.list EnumItem.decode) "items" ms
      dataType := ← Field.get? Decoder.string "dataType" ms }
  | .int =>
    return .int {
      minimum := ← Field.get Decoder.int64 "minimum" ms
      maximum := ← Field.get Decoder.int64 "maximum" ms
      cases := ← TestCases.decode ms }
  | .float =>
    return .float {
      minimum := ← Field.get Decoder.binary64 "minimum" ms
      maximum := ← Field.get Decoder.binary64 "maximum" ms
      isMinimumExclusive := ← Field.get? Decoder.bool "isMinimumExclusive" ms
      isMaximumExclusive := ← Field.get? Decoder.bool "isMaximumExclusive" ms
      cases := ← TestCases.decode ms }
  | .string =>
    return .string {
      regex := ← Field.get? Decoder.string "regex" ms
      minimumLength := ← Field.get? Decoder.nat64 "minimumLength" ms
      maximumLength := ← Field.get Decoder.nat64 "maximumLength" ms
      cases := ← TestCases.decode ms }
  | .object =>
    return .object {
      schema := ← Field.get Decoder.any "jsonSchema" ms
      cases := ← TestCases.decode ms }
  | .record =>
    return .record {
      properties := ← Field.get (Decoder.list Property.decode) "properties" ms
      required := ← Field.get? Decoder.strings "required" ms
      variants := ← Field.get? (Decoder.list Variant.decode) "variants" ms
      validCases := ← Field.get Example.decodeList "validTestCases" ms
      invalidCases := ← Field.get? Example.decodeList "invalidTestCases" ms }

/-- The kind that a value names. -/
def TypeKind.decode : Decoder TypeKind
  | .string s =>
    match TypeKind.ofText? s with
    | some k => .ok k
    | none => .error (.unknownKind s)
  | v => .error (.kindType v)

/-- The definition that a value holds. -/
def Definition.decode : Decoder Definition
  | .object ms => do
    let kind ← Field.get TypeKind.decode "kind" ms
    let body ← Body.decode kind ms
    let header ← Header.decode ms
    return ⟨header, body⟩
  | .array [] => .error (.missing "kind")
  | .array (k :: vs) => do
    let kind ← TypeKind.decode k
    .error (.type (.array vs) ("struct " ++ Name.pascalCase kind.text ++ "TypeDef"))
  | v => .error (.type v "internally tagged enum TypeDef")

end TypeCatalog
