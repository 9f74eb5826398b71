import TypeCatalog.Json.Basic
import TypeCatalog.Name

/-!
# Type maps

A type map is a list of named references and a list of named objects, made for code generators. A
reference names a primitive, an enum, or another node; an object has properties, each of which names
the node of its value. Nothing forbids two nodes of one name: the first one counts, and references
go before objects.

`TypeMap.ref?` and `TypeMap.object?` look in one of the lists, and `TypeMap.node?` in both. Maps are
put together by `TypeMap.append`, which keeps the order inside each list.
-/

set_option autoImplicit false

namespace TypeCatalog

/-- An item of an enum, for generators. -/
structure EnumEntry where
  value : String
  text : String
  symbol : Option String
  deprecated : Option String
  documentation : Option String
  data : Option Json
deriving DecidableEq, Inhabited

/-- A name that stands for another name. -/
structure RefNode where
  system : String
  name : String
  /-- A primitive for scalars and enums, else the qualified name of a node. -/
  target : String
  /-- How many times the target is wrapped into a list. -/
  arrayCount : Nat
  isScalar : Bool
  isEnum : Bool
  isRoot : Bool
  enumItems : Option (List EnumEntry)
  enumDataType : Option String
  examples : List Json
deriving DecidableEq, Inhabited

namespace RefNode

def typeName (n : RefNode) : String := Name.qualify n.system n.name

/-- Whether the node gives another type a new name and nothing more. -/
def isAlias (n : RefNode) : Bool := !n.isScalar && !n.isEnum

end RefNode

/-- A property of an object. -/
structure ObjectProperty where
  name : String
  documentation : Option String
  /-- The qualified name of the node of the value. -/
  target : String
  isRequired : Bool
deriving DecidableEq, Inhabited

/-- A named object. -/
structure ObjectNode where
  system : String
  name : String
  documentation : Option String
  arrayCount : Nat
  isRoot : Bool
  properties : List ObjectProperty
deriving DecidableEq, Inhabited

namespace ObjectNode

def typeName (n : ObjectNode) : String := Name.qualify n.system n.name

/-- The property of a name. -/
def property? (n : ObjectNode) (name : String) : Option ObjectProperty :=
  n.properties.find? (·.name = name)

end ObjectNode

/-- A node of either sort. -/
inductive Node where
  | ref (n : RefNode)
  | object (n : ObjectNode)
deriving DecidableEq, Inhabited

/-- References and objects. -/
structure TypeMap where
  objects : List ObjectNode
  refs : List RefNode
deriving DecidableEq, Inhabited

namespace TypeMap

def empty : TypeMap := ⟨[], []⟩

/-- The nodes of one map and then those of another. -/
def append (m n : TypeMap) : TypeMap := ⟨m.objects ++ n.objects, m.refs ++ n.refs⟩

instance : Append TypeMap := ⟨append⟩

def ofRef (n : RefNode) : TypeMap := ⟨[], [n]⟩

def ofObject (n : ObjectNode) : TypeMap := ⟨[n], []⟩

def size (m : TypeMap) : Nat := m.objects.length + m.refs.length

def isEmpty (m : TypeMap) : Bool := m.size = 0

def ref? (m : TypeMap) (typeName : String) : Option RefNode :=
  m.refs.find? (·.typeName = typeName)

def object? (m : TypeMap) (typeName : String) : Option ObjectNode :=
  m.objects.find? (·.typeName = typeName)

/-- The node of a name. -/
def node? (m : TypeMap) (typeName : String) : Option Node :=
  match m.ref? typeName with
  | some n => some (.ref n)
  | none => (m.object? typeName).map .object

/-- The name of every node, those of references first. -/
def typeNames (m : TypeMap) : List String :=
  m.refs.map RefNode.typeName ++ m.objects.map ObjectNode.typeName

end TypeMap

end TypeCatalog
