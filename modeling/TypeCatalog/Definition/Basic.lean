import TypeCatalog.Json.Basic
import TypeCatalog.Name

/-!
# Type definitions

A definition has a header, which is the same for every kind, and a body for its kind. Optional
fields keep the difference between absent and empty, because a definition is written down again as
it was declared.

A record may have variants. A variant selects properties of the record, and stands for a type of its
own, whose name is made of both names.

`Definition.typeName` is the qualified name, and `Definition.variantTypeName` the one of a variant.
`RecordBody.selected` are the properties that `includeProperties` and `excludeProperties` leave to a
variant, and `RecordBody.requiredBy` those of them that the variant demands; both keep the order of
`properties`.
-/

set_option autoImplicit false

namespace TypeCatalog

/-- The kinds of definitions. -/
inductive TypeKind where
  | bool
  | enum
  | int
  | float
  | string
  | object
  | record
deriving DecidableEq, Inhabited

namespace TypeKind

def text : TypeKind → String
  | bool => "bool"
  | enum => "enum"
  | int => "int"
  | float => "float"
  | string => "string"
  | object => "object"
  | record => "record"

def all : List TypeKind := [bool, enum, int, float, string, object, record]

/-- The kind that a text names. -/
def ofText? (s : String) : Option TypeKind := all.find? (·.text = s)

end TypeKind

/-- A declared value, as an example or a test case. -/
structure Example where
  value : Json
  summary : Option String
deriving DecidableEq, Inhabited

/-- What every definition declares. -/
structure Header where
  system : String
  name : String
  title : Option String
  summary : Option String
  /-- Why the type should no longer be used. -/
  deprecated : Option String
  tags : Option (List String)
  labels : Option (List String)
  examples : Option (List Example)
deriving DecidableEq, Inhabited

/-- The qualified name of the type. -/
def Header.typeName (h : Header) : String := Name.qualify h.system h.name

/-- Values that have to be valid, and values that must not be. -/
structure TestCases where
  valid : Option (List Example)
  invalid : Option (List Example)
deriving DecidableEq, Inhabited

/-- One of the values of an enum. -/
structure EnumItem where
  value : String
  text : String
  symbol : Option String
  deprecated : Option String
  summary : Option String
  /-- What is known of the item, as the data type of the enum describes it. -/
  data : Option Json
deriving DecidableEq, Inhabited

/-- A text out of a list. -/
structure EnumBody where
  items : List EnumItem
  /-- The record type that describes the data of the items. -/
  dataType : Option String
deriving DecidableEq, Inhabited

/-- A whole number between two bounds. -/
structure IntBody where
  minimum : Int
  maximum : Int
  cases : TestCases
deriving DecidableEq, Inhabited

/-- A number between two bounds, each of which may be excluded. -/
structure FloatBody where
  minimum : Binary64
  maximum : Binary64
  isMinimumExclusive : Option Bool
  isMaximumExclusive : Option Bool
  cases : TestCases
deriving DecidableEq, Inhabited

/-- A text of a bounded length that matches a pattern. -/
structure StringBody where
  regex : Option String
  minimumLength : Option Nat
  maximumLength : Nat
  cases : TestCases
deriving DecidableEq, Inhabited

/-- A type that a schema describes. -/
structure ObjectBody where
  schema : Json
  cases : TestCases
deriving DecidableEq, Inhabited

/-- A property of a record. -/
structure Property where
  name : String
  summary : Option String
  /-- A reference to the type of the value. -/
  propertyType : String
  isArray : Option Bool
  isRequired : Option Bool
deriving DecidableEq, Inhabited

/-- A selection of the properties of a record. -/
structure Variant where
  name : String
  summary : Option String
  required : Option (List String)
  includeProperties : Option (List String)
  excludeProperties : Option (List String)
deriving DecidableEq, Inhabited

/-- An object with declared properties. -/
structure RecordBody where
  properties : List Property
  required : Option (List String)
  variants : Option (List Variant)
  validCases : List Example
  invalidCases : Option (List Example)
deriving DecidableEq, Inhabited

/-- What a definition declares for its kind. -/
inductive Body where
  | bool (cases : TestCases)
  | enum (body : EnumBody)
  | int (body : IntBody)
  | float (body : FloatBody)
  | string (body : StringBody)
  | object (body : ObjectBody)
  | record (body : RecordBody)
deriving DecidableEq, Inhabited

def Body.kind : Body → TypeKind
  | bool _ => .bool
  | enum _ => .enum
  | int _ => .int
  | float _ => .float
  | string _ => .string
  | object _ => .object
  | record _ => .record

/-- A type definition. -/
structure Definition where
  header : Header
  body : Body
deriving DecidableEq, Inhabited

namespace Property

/-- Whether the value is a list of values of the type. -/
def array (p : Property) : Bool := p.isArray.getD false

/-- Whether the property itself says that it is required. -/
def flagged (p : Property) : Bool := p.isRequired.getD false

end Property

/-- Whether a variant selects the property of a name. A list of names to include goes before a list
of names to exclude. -/
def Variant.selects (v : Variant) (name : String) : Bool :=
  match v.includeProperties, v.excludeProperties with
  | some names, _ => names.contains name
  | none, some names => !names.contains name
  | none, none => true

namespace RecordBody

/-- Whether a property is required, by its flag or by the list of the record. -/
def requires (r : RecordBody) (p : Property) : Bool :=
  p.flagged || (r.required.getD []).contains p.name

/-- The names of the required properties, in the order of declaration. -/
def requiredNames (r : RecordBody) : List String :=
  (r.properties.filter r.requires).map (·.name)

/-- The variants, none when they are not declared. -/
def variantList (r : RecordBody) : List Variant := r.variants.getD []

/-- The properties that a variant selects, in the order of declaration. -/
def selected (r : RecordBody) (v : Variant) : List Property :=
  r.properties.filter fun p => v.selects p.name

/-- The names that a variant requires: those of its own list, or of the record when it has none, and
of these the selected ones. -/
def requiredBy (r : RecordBody) (v : Variant) : List String :=
  let names := v.required.getD r.requiredNames
  ((r.selected v).filter fun p => names.contains p.name).map (·.name)

end RecordBody

namespace Definition

def kind (d : Definition) : TypeKind := d.body.kind

/-- The qualified name of the type. -/
def typeName (d : Definition) : String := d.header.typeName

/-- The name of the type that a variant stands for. -/
def variantName (d : Definition) (v : Variant) : String :=
  d.header.name ++ Name.pascalCase v.name

/-- The qualified name of the type that a variant stands for. -/
def variantTypeName (d : Definition) (v : Variant) : String :=
  Name.qualify d.header.system (d.variantName v)

/-- The declared examples. -/
def examples (d : Definition) : List Example := d.header.examples.getD []

/-- The values that have to be valid. -/
def validCases (d : Definition) : List Example :=
  match d.body with
  | .bool c => c.valid.getD []
  | .enum _ => []
  | .int b => b.cases.valid.getD []
  | .float b => b.cases.valid.getD []
  | .string b => b.cases.valid.getD []
  | .object b => b.cases.valid.getD []
  | .record r => r.validCases

/-- The values that must not be valid. -/
def invalidCases (d : Definition) : List Example :=
  match d.body with
  | .bool c => c.invalid.getD []
  | .enum _ => []
  | .int b => b.cases.invalid.getD []
  | .float b => b.cases.invalid.getD []
  | .string b => b.cases.invalid.getD []
  | .object b => b.cases.invalid.getD []
  | .record r => r.invalidCases.getD []

end Definition

end TypeCatalog
