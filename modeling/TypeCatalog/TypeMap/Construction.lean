import TypeCatalog.TypeMap.Build

/-!
# Type maps in the making

A `Construction` is a type map that grows: enums are made known to it, and definitions and schemas
are entered, in any order and any number. A node goes behind those that are there, and a schema that
is entered answers with the name that its node got.

`Construction.addSchema` follows the recursion of `Builder.nodes`, with `pushRef` and `pushObject`
in the place of an appended map; `Construction.run` performs a list of calls.
-/

set_option autoImplicit false

namespace TypeCatalog

/-- The nodes that were entered so far, and what the next ones depend on. -/
structure Construction where
  builder : Builder
  map : TypeMap
deriving DecidableEq, Inhabited

/-- What can be done to a type map in the making. -/
inductive Construction.Call where
  | withEnums (declared : List (Header × EnumBody))
  | addDefinition (d : Definition) (emitted : Emitted)
  | addSchema (e : Entry) (schema : Json)

namespace Construction

/-- Nothing is entered, and no enum is known. -/
def new (domain : String) : Construction := ⟨⟨domain, []⟩, .empty⟩

/-- Makes enums known. Of two enums of one name, the later one counts. -/
def withEnums (c : Construction) (declared : List (Header × EnumBody)) : Construction :=
  declared.foldl
    (fun c (h, body) =>
      { c with builder.enums :=
          (h.typeName, EnumRoot.ofBody h.system body) :: c.builder.enums })
    c

def pushRef (c : Construction) (n : RefNode) : Construction :=
  { c with map.refs := c.map.refs ++ [n] }

def pushObject (c : Construction) (n : ObjectNode) : Construction :=
  { c with map.objects := c.map.objects ++ [n] }

mutual
/-- Enters a schema. The values of an object's properties are entered before the object. -/
def addSchema (c : Construction) (e : Entry) (schema : Json) : String × Construction :=
  match c.builder.refOf? e schema with
  | some n => (e.typeName, c.pushRef n)
  | none =>
    match _h : Builder.itemSchema? schema with
    | some items => addSchema c (Builder.itemEntry e) items
    | none =>
      match _h : Builder.closedProperties? schema with
      | some ps =>
        let (properties, c) := addProperties c e (Builder.requiredNames schema) ps
        (e.typeName, c.pushObject
          ⟨e.system, e.name, Builder.description schema, e.depth, e.isRoot, properties⟩)
      | none => (e.typeName, c.pushRef (e.ref "object" true))
termination_by sizeOf schema
decreasing_by
  · exact Builder.sizeOf_lt_of_itemSchema? ‹_›
  · exact Builder.sizeOf_lt_of_closedProperties? ‹_›

/-- Enters the values of properties, and answers with the properties. Each of them names the node
that its value got. -/
def addProperties (c : Construction) (e : Entry) (required : List String)
    (ps : List (String × Json)) : List ObjectProperty × Construction :=
  match ps with
  | [] => ([], c)
  | (k, schema) :: ps =>
    let (target, c) := addSchema c (Builder.propertyEntry e k) schema
    let (properties, c) := addProperties c e required ps
    (⟨k, Builder.description schema, target, required.contains k⟩ :: properties, c)
termination_by sizeOf ps
end

/-- Enters a document as a root type. A document whose name has no slash is left out. -/
def addDocument (c : Construction) (examples : List Json) (document : Document) : Construction :=
  match Name.split? document.typeName with
  | some (system, name) => (c.addSchema ⟨system, name, true, examples, 0⟩ document.schema).2
  | none => c

/-- Enters the documents of a definition. Examples belong to the type and not to its variants. -/
def addDefinition (c : Construction) (d : Definition) (emitted : Emitted) : Construction :=
  emitted.variants.foldl (fun c document => c.addDocument [] document)
    (c.addDocument (d.examples.map (·.value)) emitted.document)

def apply (c : Construction) : Call → Construction
  | .withEnums declared => c.withEnums declared
  | .addDefinition d emitted => c.addDefinition d emitted
  | .addSchema e schema => (c.addSchema e schema).2

def run (c : Construction) (calls : List Call) : Construction := calls.foldl apply c

end Construction

end TypeCatalog
