import TypeCatalog.Validation.Registry

/-!
# Finding the documents that a schema refers to

`Registry.collect` goes through a schema and the schemas inside it, level by level, enters those
that have addresses or names of their own, and notes the references to other documents. When it has
come to the end it fetches the documents that were noted, and goes through these in the same way. It
fails at the first reference that leads to a document that is not there.

`visit` enters one schema, and `enqueue` lets the parts of it wait that `Draft.subschemas` lists.
`noteAll` notes the values of `$ref` and `$schema`; `fetch` brings a document that was noted, and
`run` alternates between the two.
-/

set_option autoImplicit false

namespace TypeCatalog

mutual
/-- The number of values inside a value, itself included. -/
def Json.count : Json → Nat
  | .array xs => Json.itemCount xs + 1
  | .object ms => Json.memberCount ms + 1
  | _ => 1

def Json.itemCount : List Json → Nat
  | [] => 0
  | x :: xs => Json.count x + Json.itemCount xs

def Json.memberCount : List (String × Json) → Nat
  | [] => 0
  | (_, x) :: ms => Json.count x + Json.memberCount ms
end

/-- What is known on the way through the documents. -/
structure Survey where
  registry : Registry
  /-- Schemas that have not been looked at, with their bases. -/
  waiting : List Site
  /-- References to other documents, the last one first. -/
  pending : List Uri
  /-- References that were met, with their bases. -/
  met : List (String × String)
deriving Inhabited

namespace Survey

/-- Notes a reference that stands at a base in a schema. One that stays inside the schema is
followed by a given function. -/
def note (follow : Json → Survey → Except SchemaFault Survey) (base : Uri) (whole : Json)
    (s : Survey) (reference : String) : Except SchemaFault Survey :=
  if Draft.isSpecification reference || s.met.contains (base.text, reference) then .ok s
  else
    let s := { s with met := (base.text, reference) :: s.met }
    if Fragment.isLocal reference then
      match Pointer.find? whole (reference.toList.dropWhile (· = '#')) with
      | none => .ok s
      | some part => follow part s
    else
      (Site.resolve base.document reference).map fun uri => { s with pending := uri :: s.pending }

/-- Notes the references of a part of a schema. Each one that stays inside the schema takes a round.
-/
def noteOf (base : Uri) (whole : Json) : Nat → Json → Survey → Except SchemaFault Survey
  | 0, _, s => .ok s
  | rounds + 1, part, s =>
    let texts := ["$ref", "$schema"].filterMap fun k => (part.member? k).bind Json.string?
    texts.foldlM (note (noteOf base whole rounds) base whole) s

/-- Notes the references of a schema itself, and not of those inside it. Names of another kind than
addresses are no base for references to documents. -/
def noteAll (base : Uri) (schema : Json) (s : Survey) : Except SchemaFault Survey :=
  if base.scheme = some "urn".toList then .ok s
  else noteOf base schema (schema.count + 1) schema s

/-- Lets a schema inside another one wait, after its references were noted. -/
def enqueue (base : Uri) (draft : Draft) (s : Survey) (schema : Json) :
    Except SchemaFault Survey := do
  let draft ← (draft.detect schema).mapError .unknownSpecification
  let resource : Resource := ⟨draft, schema⟩
  let s ← noteAll (← Site.enter base resource) schema s
  pure { s with waiting := s.waiting ++ [⟨base, resource⟩] }

/-- Goes through a schema. -/
def visit (s : Survey) (site : Site) : Except SchemaFault Survey := do
  let resource := site.resource
  let base ← Site.enter site.base resource
  let isNamed := (resource.draft.ownAddress? resource.schema).isSome
  let registry := if isNamed then s.registry.addResource base.text resource else s.registry
  let s ← noteAll base resource.schema
    { s with registry := registry.addAnchors base.text resource }
  (resource.draft.subschemas resource.schema).foldlM (enqueue base resource.draft) s

/-- Goes through the schemas that wait, and those inside them. -/
def visitAll : Nat → Survey → Except SchemaFault Survey
  | 0, s => .ok s
  | rounds + 1, s =>
    match s.waiting with
    | [] => .ok s
    | site :: rest => do visitAll rounds (← visit { s with waiting := rest } site)

/-- The number of values in the schemas that wait. -/
def size (s : Survey) : Nat :=
  s.waiting.foldl (fun n site => n + site.resource.schema.count) 0

/-- Fetches a document, unless it is known. The place that the fragment points to is read at the
address with the fragment. -/
def fetch (documents : List (String × Json)) (s : Survey) (reference : Uri) :
    Except SchemaFault Survey := do
  let base := reference.document
  let address := base.text
  if (s.registry.resource? address).isSome then return s
  let some schema := documents.lookup address | throw (.missing address)
  let draft ← (Draft.draft7.detect schema).mapError .unknownSpecification
  let resource : Resource := ⟨draft, schema⟩
  let s :=
    { s with
      registry := s.registry.addResource address resource
      waiting := s.waiting ++ [⟨base, resource⟩] }
  match reference.fragment.bind (Pointer.find? schema) with
  | none => pure s
  | some part => do
    let draft ← (Draft.draft7.detect part).mapError .unknownSpecification
    pure { s with waiting := s.waiting ++ [⟨reference, ⟨draft, part⟩⟩] }

/-- Goes through schemas and fetches documents, in rounds. -/
def run (documents : List (String × Json)) : Nat → Survey → Except SchemaFault Survey
  | 0, s => .ok s
  | rounds + 1, s => do
    let s ← visitAll (s.size + 1) s
    if s.pending.isEmpty then return s
    let pending := s.pending.reverse
    run documents rounds (← pending.foldlM (fetch documents) { s with pending := [] })

end Survey

namespace Registry

/-- The registry with a document of a known address. -/
def addDocument (r : Registry) (documents : List (String × Json)) (base : Uri)
    (resource : Resource) : Except SchemaFault Registry := do
  let r := r.addResource base.text resource
  let s ← Survey.run documents (documents.length + 2) ⟨r, [⟨base, resource⟩], [], []⟩
  pure s.registry

/-- The documents that can be reached from a schema, in a registry that begins with some known ones.
-/
def collect (known : Registry) (documents : List (String × Json)) (resource : Resource) :
    Except SchemaFault Registry := do
  known.addDocument documents (← Site.address resource) resource

end Registry

end TypeCatalog
