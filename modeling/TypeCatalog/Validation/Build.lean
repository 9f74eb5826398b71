import TypeCatalog.Validation.MetaSchema.Draft2019
import TypeCatalog.Validation.MetaSchema.Draft2020
import TypeCatalog.Validation.MetaSchema.SingleDocument
import TypeCatalog.Validation.Reader.Schema
import TypeCatalog.Validation.Survey
import TypeCatalog.Validation.Validator

/-!
# Building validators

`Validator.build` makes a validator of a schema document in three steps, of which the first one that
fails gives the reason: the documents that it refers to are collected, the document itself is
checked against the schema of schemas, and then it is read, together with all schemas that its
references lead to.

Where a reference leads may depend on the way to it. After the reading, `Reader.complete` also reads
the schemas that it may lead to on another way; what cannot be read there is left out.

`Registry.collect` is the first step, `check` the second one and `Reader.validator` the third;
`candidates` are the targets that `complete` tries to read, and no chain of targets is longer than
`rounds`.
-/

set_option autoImplicit false

namespace TypeCatalog

namespace Reader

/-- The targets that a reference may have in some scope. -/
def candidates (r : Reader) (l : Link) : List Target :=
  let addresses := (r.registry.resources.map (·.1) ++ r.registry.anchors.map (·.1.1)).eraseDups
  match l.kind with
  | .fixed => []
  | .dynamic =>
    (addresses.filter (r.registry.hasDynamic l.target.fragment)).map fun address =>
      { l.target with owner := address }
  | .recursive => (addresses.filter r.registry.isRecursive).map (Target.within · "")

/-- Reads the schemas that some references may lead to. -/
def readCandidates (r : Reader) (rounds : Nat) (links : List Link) (p : Progress) : Progress :=
  (links.flatMap r.candidates).eraseDups.foldl (fun p t =>
    match (r.follow rounds t).run p with
    | .ok (_, q) => q
    | .error _ => p) p

/-- Reads the schemas that references may lead to, and those that these may lead to, until there is
nothing new. -/
def complete (r : Reader) (rounds : Nat) (links : List Link) : Nat → Progress → Progress
  | 0, p => p
  | n + 1, p =>
    let q := r.readCandidates rounds (links ++ p.definitions.flatMap fun d => d.2.links) p
    if q.definitions.length = p.definitions.length then p else complete r rounds links n q

/-- A number that no chain of targets exceeds. -/
def rounds (r : Reader) : Nat :=
  let size := r.registry.resources.foldl (fun n (_, found) => n + found.schema.count) 0
  size * (r.registry.resources.length + 1) + 1

/-- The validator of a schema document that stands in the registry. -/
def validator (r : Reader) (document : Resource) : Except SchemaFault Validator := do
  let base ← Site.address document
  let place : Place :=
    ⟨← Site.enter base document, document.draft,
      document.draft.vocabulariesOf document.schema⟩
  let (schema, p) ← (r.body (r.follow r.rounds) place document.schema).run default
  let p := r.complete r.rounds schema.links (r.registry.resources.length + 1) p
  pure ⟨.within base.text "", schema, p.definitions, r.registry⟩

end Reader

namespace MetaSchema

/-- The documents that say what a schema is, by the versions that they are written in. -/
def documents : List (Draft × String × Json) :=
  [(.draft4, Draft4.address, Draft4.schema),
   (.draft6, Draft6.address, Draft6.schema),
   (.draft7, Draft7.address, Draft7.schema)]
  ++ Draft2019.documents.map (Draft.draft2019, ·)
  ++ Draft2020.documents.map (Draft.draft2020, ·)

/-- The registry that every other one begins with. -/
def registry : Registry :=
  documents.foldl (fun r (draft, address, schema) =>
    (r.addResource address ⟨draft, schema⟩).addAnchors address ⟨draft, schema⟩) .empty

/-- The validator of schema documents. -/
def validator : Except SchemaFault Validator :=
  Reader.validator ⟨registry, [], true⟩ ⟨.draft7, Draft7.schema⟩

/-- A schema document has to satisfy the schema of schemas. The first error is the reason why it
does not. -/
def check (document : Json) : Except SchemaFault Unit := do
  let v ← validator
  match v.errors document with
  | [] => .ok ()
  | e :: _ => .error (.rejected e.message)

end MetaSchema

/-- The validator of a schema document that may refer to some others. -/
def Validator.build (documents : List (String × Json)) (formats : List Format)
    (checksFormats : Bool) (document : Json) : Except SchemaFault Validator := do
  let resource : Resource := ⟨.draft7, document⟩
  let registry ← Registry.collect MetaSchema.registry documents resource
  MetaSchema.check document
  Reader.validator ⟨registry, formats, checksFormats⟩ resource

end TypeCatalog
