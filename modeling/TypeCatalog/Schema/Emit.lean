import TypeCatalog.Definition.Violation
import TypeCatalog.Schema.Fragment
import TypeCatalog.Schema.Known

/-!
# Schema documents of definitions

`emit` turns a definition into the schema document of its type, and one more document for each
variant of a record. A document has an address below the domain, and refers to other types by their
addresses. A definition that refers to types that are not known has no documents, but a violation
for each such reference.

`unresolvedReferences` asks for `propertyType`, `dataType` and each `$ref` of a `jsonSchema` whether
the name that it resolves to is known. `typeDocument` puts `headerMembers` (`$schema`, `$id`,
`title`, `description`, `deprecated`, `examples`) in front of `bodyMembers`, of which there is one
case for each kind: `recordMembers` for records and their variants, and `withFragment` for the
`jsonSchema` of an object, whose references `Fragment.mapReferences` has made absolute.
-/

set_option autoImplicit false

namespace TypeCatalog

/-- A schema document. -/
structure Document where
  /-- The qualified name of the type that the document describes. -/
  typeName : String
  /-- The address of the document, which it also holds as its `$id`. -/
  uri : String
  schema : Json
deriving DecidableEq, Inhabited

/-- The documents of one definition. -/
structure Emitted where
  document : Document
  variants : List Document
deriving DecidableEq, Inhabited

/-- The document of the type, and then those of its variants. -/
def Emitted.documents (e : Emitted) : List Document := e.document :: e.variants

/-- What the address of every document begins with. It does not end with a slash. -/
structure Emitter where
  domain : String
deriving DecidableEq, Inhabited

namespace Emitter

/-- The emitter for a domain, whose slashes at the end are of no account. -/
def ofDomain (domain : String) : Emitter := ⟨String.ofList (Name.trimEndSlashes domain.toList)⟩

/-- The address of a type's document. -/
def uri (e : Emitter) (typeName : String) : String := e.domain ++ "/" ++ typeName

/-! ## References -/

/-- The type that a property of a record refers to. -/
def propertyTarget (system : String) (p : Property) : String :=
  Name.resolve none system p.propertyType

/-- The type that a reference of a fragment names, whatever pointer follows it. -/
def fragmentTarget (e : Emitter) (system reference : String) : String :=
  Name.resolve (some e.domain) system (Fragment.splitPointer reference).1

/-- A reference to a type that is not known, with a suggestion if there is one. -/
def unresolved (known : KnownTypes) (rule : Rule) (path message target : String) : Violation :=
  ⟨rule, path, message, .object <|
    ("reference", .string target) ::
      (match known.suggest target with
        | some s => [("suggestion", .string s)]
        | none => [])⟩

/-- The references of a definition to types that are not known. The data type of an enum has to be a
record. -/
def unresolvedReferences (e : Emitter) (known : KnownTypes) (d : Definition) : List Violation :=
  match d.body with
  | .record r =>
    r.properties.zipIdx.filterMap fun (p, i) =>
      let target := propertyTarget d.header.system p
      if known.contains target then none
      else some <| unresolved known .unknownPropertyType
        ("properties[" ++ toString i ++ "].propertyType")
        ("Property '" ++ p.name ++ "' refers to unknown type '" ++ target ++ "'") target
  | .enum b =>
    match b.dataType with
    | none => []
    | some reference =>
      let target := Name.resolve none d.header.system reference
      if known.kind? target = some .record then []
      else
        [unresolved known .unknownDataType "dataType"
          ("Enum data type '" ++ target ++ "' is not a known record type") target]
  | .object b =>
    (Fragment.references "jsonSchema" b.schema).filterMap fun (path, reference) =>
      let target := e.fragmentTarget d.header.system reference
      if known.contains target then none
      else some <| unresolved known .unknownPropertyType path
        ("Schema reference '" ++ reference ++ "' names unknown type '" ++ target ++ "'") target
  | _ => []

/-! ## Documents -/

/-- The address of the version of the schema language. -/
def draft : String := "http://json-schema.org/draft-07/schema#"

/-- A text that is there and not empty. -/
def nonEmpty (s : Option String) : Option String := s.filter fun s => !s.isEmpty

/-- The title of a type: its own, or one that its name suggests. -/
def titleOf (h : Header) : String := h.title.getD (Name.title h.name)

/-- The members that every document begins with. -/
def headerMembers (e : Emitter) (typeName : String) (h : Header) : List (String × Json) :=
  [("$schema", .string draft), ("$id", .string (e.uri typeName)), ("title", .string (titleOf h))]
  ++ (match nonEmpty h.summary with
      | some s => [("description", .string s)]
      | none => [])
  ++ (if h.deprecated.isSome then [("deprecated", .bool true)] else [])
  ++ (match h.examples.getD [] with
      | [] => []
      | es => [("examples", .array (es.map (·.value)))])

/-- The schema of a property: a reference to its type, or a list of such. -/
def propertySchema (e : Emitter) (system : String) (p : Property) : Json :=
  let reference := ("$ref", Json.string (e.uri (propertyTarget system p)))
  .object <|
    (match nonEmpty p.summary with
      | some s => [("description", .string s)]
      | none => [])
    ++ if p.array then [("type", .string "array"), ("items", .object [reference])] else [reference]

/-- The members of the document of a record or a variant. -/
def recordMembers (e : Emitter) (system : String) (properties : List Property)
    (required : List String) : List (String × Json) :=
  [("type", .string "object"), ("additionalProperties", .bool false),
   ("properties", .object
      (properties.foldl (fun ms p => Json.put p.name (e.propertySchema system p) ms) []))]
  ++ if required.isEmpty then [] else [("required", .ofStrings required)]

/-- The text of a reference in the emitted document: the address of the type, with the pointer that
follows. -/
def emittedReference (e : Emitter) (system reference : String) : String :=
  let uri := e.uri (e.fragmentTarget system reference)
  match (Fragment.splitPointer reference).2 with
  | some pointer => uri ++ "#" ++ pointer
  | none => uri

/-- Members followed by those of a fragment whose names are not taken. -/
def withFragment (ms : List (String × Json)) (fragment : Json) : List (String × Json) :=
  ms ++ (fragment.members?.getD []).filter fun m => (ms.lookup m.1).isNone

/-- The members that describe the values of a type, behind those of the header. -/
def bodyMembers (e : Emitter) (system : String) (header : List (String × Json)) :
    Body → List (String × Json)
  | .bool _ => header ++ [("type", .string "boolean")]
  | .enum b => header ++ [("type", .string "string"), ("enum", .ofStrings (b.items.map (·.value)))]
  | .int b =>
    header ++ [("type", .string "integer"), ("minimum", .number (.integer b.minimum)),
      ("maximum", .number (.integer b.maximum))]
  | .float b =>
    header ++ [("type", .string "number"),
      (if b.isMinimumExclusive.getD false then "exclusiveMinimum" else "minimum",
        .ofBinary64 b.minimum),
      (if b.isMaximumExclusive.getD false then "exclusiveMaximum" else "maximum",
        .ofBinary64 b.maximum)]
  | .string b =>
    header ++ [("type", .string "string")]
    ++ (match b.minimumLength.getD 0 with
        | 0 => []
        | n => [("minLength", .ofNat n)])
    ++ [("maxLength", .ofNat b.maximumLength)]
    ++ (match b.regex with
        | some r => [("pattern", .string r)]
        | none => [])
  | .object b => withFragment header (Fragment.mapReferences (e.emittedReference system) b.schema)
  | .record r => header ++ e.recordMembers system r.properties r.requiredNames

/-- The document of the type itself. -/
def typeDocument (e : Emitter) (d : Definition) : Document :=
  let header := e.headerMembers d.typeName d.header
  ⟨d.typeName, e.uri d.typeName, .object (e.bodyMembers d.header.system header d.body)⟩

/-- The header of a variant's document: that of the record with the title and the summary of the
variant, and without examples. -/
def variantHeader (h : Header) (v : Variant) : Header :=
  { h with
    title := some (titleOf h ++ " (" ++ Name.title v.name ++ ")")
    summary := v.summary
    examples := none }

/-- The document of a variant. -/
def variantDocument (e : Emitter) (d : Definition) (r : RecordBody) (v : Variant) : Document :=
  let name := d.variantTypeName v
  ⟨name, e.uri name, .object <|
    e.headerMembers name (variantHeader d.header v)
    ++ e.recordMembers d.header.system (r.selected v) (r.requiredBy v)⟩

/-- The documents of the variants. -/
def variantDocuments (e : Emitter) (d : Definition) : List Document :=
  match d.body with
  | .record r => r.variantList.map (e.variantDocument d r)
  | _ => []

/-- The documents of a definition, or the references that are not known. -/
def emit (e : Emitter) (known : KnownTypes) (d : Definition) : Except (List Violation) Emitted :=
  match e.unresolvedReferences known d with
  | [] => .ok ⟨e.typeDocument d, e.variantDocuments d⟩
  | vs => .error vs

end Emitter

end TypeCatalog
