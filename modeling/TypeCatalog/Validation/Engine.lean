import TypeCatalog.Schema.Emit
import TypeCatalog.Validation.Build

/-!
# The validators of a batch

An `Engine` holds the documents of a batch in two tables: the documents by their addresses, and the
addresses by the names of the types. Its validators are built over all documents, so that a document
may refer to any other, whenever it was added.

`Engine.add` enters a document by `Table.insert`, the later one of two with one name or address
counting. `Engine.compile` looks a type up in both tables and builds two validators by
`Validator.build`: one of the document itself, and one of `Engine.listSchema`, whose `items` refer
to the document by `$ref`. `BuildError.message` is what is said where this fails.
-/

set_option autoImplicit false

namespace TypeCatalog

/-- Enters a value under a key, in the place of an earlier one. -/
def Table.insert {α : Type} (key : String) (a : α) : List (String × α) → List (String × α)
  | [] => [(key, a)]
  | (k, b) :: rest => if k = key then (k, a) :: rest else (k, b) :: Table.insert key a rest

/-- The documents of a batch. -/
structure Engine where
  /-- Addresses and the documents at them. -/
  documents : List (String × Json)
  /-- Type names and the addresses of their documents. -/
  addresses : List (String × String)
  /-- The formats that the batch brings, the last one of a name counting. -/
  formats : List Format
  checksFormats : Bool

namespace Engine

def empty (formats : List Format) (checksFormats : Bool) : Engine :=
  ⟨[], [], formats, checksFormats⟩

/-- Adds a document. A later one takes the place of an earlier one of the same name or address. -/
def add (e : Engine) (d : Document) : Engine :=
  { e with
    documents := Table.insert d.uri d.schema e.documents
    addresses := Table.insert d.typeName d.uri e.addresses }

/-- Whether a document of a name was added. -/
def contains (e : Engine) (typeName : String) : Bool := (e.addresses.lookup typeName).isSome

/-- The number of documents. -/
def size (e : Engine) : Nat := e.documents.length

def isEmpty (e : Engine) : Bool := e.documents.isEmpty

/-- The document of a type. -/
def document? (e : Engine) (typeName : String) : Option Json :=
  (e.addresses.lookup typeName).bind fun uri => e.documents.lookup uri

end Engine

/-- The validators of a type: one for a value, and one for a list of such values. -/
structure TypeValidator where
  typeName : String
  single : Validator
  list : Validator
deriving Inhabited

namespace TypeValidator

def validate (t : TypeValidator) (v : Json) : Outcome := t.single.validate v

/-- Validates a list of values of the type. -/
def validateList (t : TypeValidator) (v : Json) : Outcome := t.list.validate v

def accepts (t : TypeValidator) (v : Json) : Bool := t.single.accepts v

end TypeValidator

/-- Why a type has no validator. -/
inductive BuildError where
  /-- No document of the name was added. -/
  | unregistered
  /-- There is no document at the address of the name. -/
  | nothingAt (uri : String)
  | schema (fault : SchemaFault)
deriving DecidableEq

namespace BuildError

/-- The reason in words. -/
def reason : BuildError → String
  | unregistered => "no schema document registered"
  | nothingAt uri => "no schema document registered at '" ++ uri ++ "'"
  | schema f => f.message

/-- The message for a type. -/
def message (e : BuildError) (typeName : String) : String :=
  "Validator build failed for " ++ typeName ++ ": " ++ e.reason

end BuildError

namespace Engine

/-- The schema of lists of values that have the schema at an address. -/
def listSchema (uri : String) : Json := .object
  [("$schema", .string Emitter.draft), ("type", .string "array"),
   ("items", .object [("$ref", .string uri)])]

/-- The validator of a schema over the documents of the batch. -/
def build (e : Engine) (schema : Json) : Except BuildError Validator :=
  (Validator.build e.documents e.formats e.checksFormats schema).mapError .schema

/-- The validators of a type. -/
def compile (e : Engine) (typeName : String) : Except BuildError TypeValidator :=
  match e.addresses.lookup typeName with
  | none => .error .unregistered
  | some uri =>
    match e.documents.lookup uri with
    | none => .error (.nothingAt uri)
    | some schema => do
      let single ← e.build schema
      let list ← e.build (listSchema uri)
      pure ⟨typeName, single, list⟩

end Engine

end TypeCatalog
