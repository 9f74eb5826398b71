import TypeCatalog.Definition.Decode
import TypeCatalog.Definition.Defaults
import TypeCatalog.Definition.Shape
import TypeCatalog.Definition.Store
import TypeCatalog.Fingerprint
import TypeCatalog.Settings.Basic
import TypeCatalog.TypeMap.Build
import TypeCatalog.TypeMap.Resolve
import TypeCatalog.Validation.Verify

/-!
# Catalogs

A `Catalog` is a compiled batch: the definitions that are well formed, their schema documents, the
validators of the documents, and a report of everything that was found on the way.

`Catalog.ofStore` compiles a store. Every definition is attempted, and a definition that fails at
one step is left out of the later ones. The documents of the whole batch are there before the first
validator is built, so definitions may refer to each other in any order.

`readAll` checks the shape of each definition, decodes it, refuses a name that is taken
(`duplicateName`) and fills the defaults (`readEntry`). `emitAll` writes the documents of those that
were read, `compileAll` builds two validators for each document over an `Engine` of them all, and
`valueProblems` checks the `examples`, the test cases and the `data` of enum items. The circles of
`Catalog.typeMap` come last. Each step has its own list of diagnostics (`unresolvedOf`,
`schemaProblems`), and the report has them in the order of the steps.
-/

set_option autoImplicit false

namespace TypeCatalog

/-! ## Definitions -/

/-- The problem of a definition whose name an earlier one has. -/
def duplicateName (d : Definition) (index : Nat) (source : Option String) : Diagnostic :=
  .ofRule d.typeName .duplicateTypeName ("Type '" ++ d.typeName ++ "' is declared more than once")
    (.object [("index", .ofNat index),
      ("source", match source with
        | some s => .string s
        | none => .null)])

/-- What the documentation of a raw definition lacks. -/
def documentationWarnings (label : String) (v : Json) : List Diagnostic :=
  (Shape.warnings (Shape.violations v) (Shape.documented v)).map (·.toDiagnostic label)

/-- The definition that a raw one stands for, with its defaults, or why it is left out. `taken` are
the names of the earlier ones. -/
def readEntry (taken : List String) (index : Nat) (raw : RawDefinition) :
    Except (List Diagnostic) Definition :=
  let label := raw.label index
  match Shape.violations raw.value with
  | v :: vs => .error ((v :: vs).map (·.toDiagnostic label))
  | [] =>
    match Definition.decode raw.value with
    | .error m => .error [m.toViolation.toDiagnostic label]
    | .ok d =>
      if taken.contains d.typeName then .error [duplicateName d index raw.source]
      else .ok d.withDefaults

/-- The definitions of a store from an index on, and what was found about them. -/
def readAll (documentation : Bool) (taken : List String) (index : Nat) :
    List RawDefinition → List Definition × List Diagnostic
  | [] => ([], [])
  | raw :: rest =>
    let warnings := if documentation then documentationWarnings (raw.label index) raw.value else []
    match readEntry taken index raw with
    | .error es =>
      let (ds, found) := readAll documentation taken (index + 1) rest
      (ds, warnings ++ es ++ found)
    | .ok d =>
      let (ds, found) := readAll documentation (d.typeName :: taken) (index + 1) rest
      (d :: ds, warnings ++ found)

/-! ## Documents -/

/-- What becomes of each definition when its documents are written. -/
def emitAll (emitter : Emitter) (ds : List Definition) :
    List (Definition × Except (List Violation) Emitted) :=
  let known := KnownTypes.ofDefinitions ds
  ds.map fun d => (d, emitter.emit known d)

/-- The documents that were written by the names of their definitions, in the order of the names. -/
def emittedOf (attempts : List (Definition × Except (List Violation) Emitted)) :
    List (String × Emitted) :=
  let emitted := attempts.filterMap fun (d, result) => result.toOption.map fun e => (d.typeName, e)
  emitted.mergeSort fun a b => decide (a.1 ≤ b.1)

/-- The references that lead nowhere. -/
def unresolvedOf (attempts : List (Definition × Except (List Violation) Emitted)) :
    List Diagnostic :=
  attempts.flatMap fun (d, result) =>
    match result with
    | .ok _ => []
    | .error vs => vs.map (·.toDiagnostic d.typeName)

/-! ## Validators -/

/-- What becomes of each document when its validators are built. -/
def compileAll (e : Engine) (documents : List Document) :
    List (String × Except BuildError TypeValidator) :=
  documents.map fun d => (d.typeName, e.compile d.typeName)

/-- The validators that were built. -/
def validatorsOf (attempts : List (String × Except BuildError TypeValidator)) :
    List (String × TypeValidator) :=
  attempts.foldl
    (fun table (typeName, result) =>
      match result with
      | .ok v => Table.insert typeName v table
      | .error _ => table)
    []

/-- The problem of a document that no validator can be built of. -/
def schemaProblem (typeName : String) (e : BuildError) : Diagnostic :=
  .ofKind typeName .schemaCompilation ("Schema could not be compiled: " ++ e.reason)
    (.object [("reason", .string e.reason)])

/-- The problems of the documents that have no validator. -/
def schemaProblems (attempts : List (String × Except BuildError TypeValidator)) :
    List Diagnostic :=
  attempts.filterMap fun (typeName, result) =>
    match result with
    | .ok _ => none
    | .error e => some (schemaProblem typeName e)

/-- The declared values of a definition that do not fit. A definition without a validator is not
looked at. -/
def valueProblems (validators : List (String × TypeValidator)) (d : Definition) : List Diagnostic :=
  match validators.lookup d.typeName with
  | none => []
  | some v =>
    let dataType := match d.body with
      | .enum b => b.dataType
      | _ => none
    let dataValidator := dataType.bind fun reference =>
      validators.lookup (Name.resolve none d.header.system reference)
    v.verify d ++ (dataValidator.map fun w => w.verifyItemData d).getD []

/-! ## Compiled batches -/

/-- A compiled batch. -/
structure Catalog where
  domain : String
  /-- The well-formed definitions, with their defaults. -/
  definitions : List Definition
  /-- The documents of the definitions whose references are known, in the order of the names. -/
  emitted : List (String × Emitted)
  validators : List (String × TypeValidator)
  report : Report

namespace Catalog

/-- All documents. -/
def documents (c : Catalog) : List Document := c.emitted.flatMap (·.2.documents)

/-- The type map of the definitions that have documents. -/
def typeMap (c : Catalog) : TypeMap :=
  let builder := Builder.withEnums c.domain c.definitions
  c.definitions.foldl
    (fun m d =>
      match c.emitted.lookup d.typeName with
      | some e => m ++ builder.definitionNodes d e
      | none => m)
    .empty

/-- Compiles a store. -/
def ofStore (settings : Settings) (formats : List Format) (store : Store) : Catalog :=
  let (definitions, found) := readAll settings.documentation [] 0 store.entries
  let attempts := emitAll (Emitter.ofDomain settings.domain) definitions
  let emitted := emittedOf attempts
  let documents := emitted.flatMap (·.2.documents)
  let engine := documents.foldl Engine.add (Engine.empty formats settings.validateFormats)
  let compiled := compileAll engine documents
  let validators := validatorsOf compiled
  let report := Report.ofList <|
    found ++ unresolvedOf attempts ++ schemaProblems compiled
      ++ definitions.flatMap (valueProblems validators)
  let catalog : Catalog := ⟨settings.domain, definitions, emitted, validators, report⟩
  { catalog with report := report.extend catalog.typeMap.cycles }

def isSuccessful (c : Catalog) : Bool := c.report.isSuccessful

/-- The message for a type that has no validator. -/
def unknownTypeText (system name : String) : String :=
  "Type not found: " ++ Name.qualify system name

/-- The validators of a type or a variant. -/
def validator? (c : Catalog) (system name : String) : Option TypeValidator :=
  c.validators.lookup (Name.qualify system name)

def hasValidator (c : Catalog) (system name : String) : Bool := (c.validator? system name).isSome

/-- Validates a value; none when the type has no validator. -/
def validate? (c : Catalog) (system name : String) (v : Json) : Option Outcome :=
  (c.validator? system name).map (·.validate v)

/-- Validates a list of values; none when the type has no validator. -/
def validateList? (c : Catalog) (system name : String) (v : Json) : Option Outcome :=
  (c.validator? system name).map (·.validateList v)

/-- The definition of a type. -/
def definition? (c : Catalog) (system name : String) : Option Definition :=
  c.definitions.find? (·.typeName = Name.qualify system name)

/-- The document of a type or a variant. -/
def document? (c : Catalog) (system name : String) : Option Document :=
  c.documents.find? (·.typeName = Name.qualify system name)

/-- The fingerprint of a document. -/
def fingerprint? (c : Catalog) (system name : String) : Option Fingerprint :=
  (c.document? system name).map fun d => .ofJson d.schema

end Catalog

end TypeCatalog
