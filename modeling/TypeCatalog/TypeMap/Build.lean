import TypeCatalog.Schema.Emit
import TypeCatalog.TypeMap.Basic

/-!
# Building a type map

`Builder.nodes` gives the nodes for one schema under a proposed name. The first of these shapes that
a schema has decides: the document of a declared enum, a list of values, a reference, a primitive, a
list of one type, an object that admits no other properties than its own. Anything else is an opaque
object. The values of an object's properties get nodes of their own, whose names are made of the
object's name and the property's.

`Builder.refOf?` decides the shapes that become a `RefNode` (the document of an enum, `enum`,
`$ref`, the primitive `type`s), `Builder.itemSchema?` goes into `items`, and
`Builder.closedProperties?` reads the `properties` of an object whose `additionalProperties` are
`false`. `TypeMap.ofDefinitions` enters the documents of every definition, those of variants behind
that of the type, with the enums that `Builder.withEnums` was told of.
-/

set_option autoImplicit false

namespace TypeCatalog

/-- What is known of a declared enum. -/
structure EnumRoot where
  items : List EnumEntry
  dataType : Option String
deriving DecidableEq, Inhabited

namespace EnumRoot

def entryOf (i : EnumItem) : EnumEntry :=
  ⟨i.value, i.text, i.symbol, i.deprecated, Emitter.nonEmpty i.summary, i.data⟩

/-- What a definition of an enum declares. -/
def ofBody (system : String) (b : EnumBody) : EnumRoot :=
  ⟨b.items.map entryOf, b.dataType.map (Name.resolve none system)⟩

end EnumRoot

/-- What a schema's nodes depend on besides the schema: the domain and the declared enums, of which
the one declared last comes first. -/
structure Builder where
  domain : String
  enums : List (String × EnumRoot)
deriving DecidableEq, Inhabited

/-- How a schema is entered into the map. -/
structure Entry where
  system : String
  /-- The proposed name. -/
  name : String
  isRoot : Bool
  examples : List Json
  /-- How many lists are around the schema. -/
  depth : Nat
deriving DecidableEq, Inhabited

def Entry.typeName (e : Entry) : String := Name.qualify e.system e.name

/-- A reference under the proposed name. -/
def Entry.ref (e : Entry) (target : String) (isScalar : Bool) : RefNode :=
  ⟨e.system, e.name, target, e.depth, isScalar, false, e.isRoot, none, none, e.examples⟩

namespace Builder

def primitives : List String := ["string", "number", "integer", "boolean"]

/-- The primitive that a value is of. -/
def primitiveOf : Json → String
  | .string _ => "string"
  | .bool _ => "boolean"
  | .number (.integer _) => "integer"
  | .number (.real _) => "number"
  | _ => "object"

/-- The properties of an object that admits no others. -/
def closedProperties? (schema : Json) : Option (List (String × Json)) :=
  if schema.member? "additionalProperties" = some (.bool false)
      ∧ (schema.member? "type").all (· = .string "object") then
    (schema.member? "properties").bind Json.members?
  else none

/-- The description of a schema. -/
def description (schema : Json) : Option String :=
  Emitter.nonEmpty ((schema.member? "description").bind Json.string?)

/-- The names that a schema requires. -/
def requiredNames (schema : Json) : List String :=
  (((schema.member? "required").bind Json.items?).getD []).filterMap Json.string?

/-- The schema of the items of a list of one type. -/
def itemSchema? (schema : Json) : Option Json :=
  if schema.member? "type" = some (.string "array") then
    (schema.member? "items").filter Json.isObject
  else none

/-- The reference that a schema is entered as, when it is one. -/
def refOf? (b : Builder) (e : Entry) (schema : Json) : Option RefNode :=
  match (if e.isRoot then b.enums.lookup e.typeName else none) with
  | some root =>
    some { e.ref "string" false with
      isEnum := true, enumItems := some root.items, enumDataType := root.dataType }
  | none =>
    match (((schema.member? "enum").bind Json.items?).getD []).head? with
    | some first => some (e.ref (primitiveOf first) true)
    | none =>
      match (schema.member? "$ref").bind Json.string? with
      | some reference => some (e.ref (Name.resolve (some b.domain) e.system reference) false)
      | none =>
        ((schema.member? "type").bind Json.string?).bind fun t =>
          if primitives.contains t then some (e.ref t true) else none

/-- How the items of a list are entered. -/
def itemEntry (e : Entry) : Entry := ⟨e.system, e.name, false, [], e.depth + 1⟩

/-- How the value of a property is entered. -/
def propertyEntry (e : Entry) (property : String) : Entry :=
  ⟨e.system, e.name ++ "_" ++ property, false, [], 0⟩

/-- What is found in a list of members is smaller than the list. -/
theorem sizeOf_lt_of_lookup {name : String} {v : Json} :
    ∀ {ms : List (String × Json)}, ms.lookup name = some v → sizeOf v < sizeOf ms
  | [], h => by simp at h
  | (k, x) :: ms, h => by
      rw [List.lookup_cons] at h
      split at h
      · cases h
        simp
        omega
      · have := sizeOf_lt_of_lookup h
        simp
        omega

/-- The value of a keyword is smaller than the schema, which is why `Builder.nodes` may go into it.
-/
theorem sizeOf_lt_of_member? {name : String} {schema v : Json} (h : schema.member? name = some v) :
    sizeOf v < sizeOf schema := by
  cases schema <;> simp [Json.member?] at h
  have := sizeOf_lt_of_lookup h
  simp
  omega

/-- The schema that `itemSchema?` finds for the items is smaller than the schema of the list. -/
theorem sizeOf_lt_of_itemSchema? {schema v : Json} (h : itemSchema? schema = some v) :
    sizeOf v < sizeOf schema := by
  unfold itemSchema? at h
  split at h
  · exact sizeOf_lt_of_member? (Option.filter_eq_some_iff.1 h).1
  · simp at h

/-- The members that `closedProperties?` finds are smaller than the schema of the object. -/
theorem sizeOf_lt_of_closedProperties? {schema : Json} {ps : List (String × Json)}
    (h : closedProperties? schema = some ps) : sizeOf ps < sizeOf schema := by
  unfold closedProperties? at h
  split at h
  · obtain ⟨v, hv, hps⟩ := Option.bind_eq_some_iff.1 h
    have := sizeOf_lt_of_member? hv
    cases v <;> simp [Json.members?] at hps
    subst hps
    simp at this
    omega
  · simp at h

mutual
/-- The nodes of a schema under its proposed name. -/
def nodes (b : Builder) (e : Entry) (schema : Json) : TypeMap :=
  match b.refOf? e schema with
  | some n => .ofRef n
  | none =>
    match _h : itemSchema? schema with
    | some items => nodes b (itemEntry e) items
    | none =>
      match _h : closedProperties? schema with
      | some ps =>
        let (inner, properties) := propertyNodes b e (requiredNames schema) ps
        inner ++ TypeMap.ofObject
          ⟨e.system, e.name, description schema, e.depth, e.isRoot, properties⟩
      | none => .ofRef (e.ref "object" true)
termination_by sizeOf schema
decreasing_by
  · exact sizeOf_lt_of_itemSchema? ‹_›
  · exact sizeOf_lt_of_closedProperties? ‹_›

/-- The nodes of the values of properties, and the properties themselves. -/
def propertyNodes (b : Builder) (e : Entry) (required : List String) (ps : List (String × Json)) :
    TypeMap × List ObjectProperty :=
  match ps with
  | [] => (.empty, [])
  | (k, schema) :: ps =>
    let entry := propertyEntry e k
    let (inner, properties) := propertyNodes b e required ps
    (nodes b entry schema ++ inner,
      ⟨k, description schema, entry.typeName, required.contains k⟩ :: properties)
termination_by sizeOf ps
end

/-- The nodes of a document, entered as a root type. -/
def documentNodes (b : Builder) (examples : List Json) (d : Document) : TypeMap :=
  match Name.split? d.typeName with
  | some (system, name) => b.nodes ⟨system, name, true, examples, 0⟩ d.schema
  | none => .empty

/-- The nodes of a definition: those of its type, and then those of its variants. -/
def definitionNodes (b : Builder) (d : Definition) (emitted : Emitted) : TypeMap :=
  b.documentNodes (d.examples.map (·.value)) emitted.document
  ++ (emitted.variants.map (b.documentNodes [])).foldl (· ++ ·) .empty

/-- The builder that knows the enums among some definitions. -/
def withEnums (domain : String) (ds : List Definition) : Builder :=
  ⟨domain, (ds.filterMap fun d =>
    match d.body with
    | .enum body => some (d.typeName, EnumRoot.ofBody d.header.system body)
    | _ => none).reverse⟩

end Builder

/-- The type map of some definitions. A definition that has no documents is left out. -/
def TypeMap.ofDefinitions (domain : String) (ds : List Definition) : TypeMap :=
  let emitter := Emitter.ofDomain domain
  let known := KnownTypes.ofDefinitions ds
  let builder := Builder.withEnums emitter.domain ds
  ds.foldl
    (fun m d =>
      match emitter.emit known d with
      | .ok emitted => m ++ builder.definitionNodes d emitted
      | .error _ => m)
    .empty

end TypeCatalog
