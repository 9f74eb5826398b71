import TypeCatalog.Format.Pointer
import TypeCatalog.Validation.Draft
import TypeCatalog.Validation.Fault
import TypeCatalog.Validation.Schema

/-!
# Documents that schemas refer to

A `Registry` holds the documents that can be reached from a schema, by their addresses, and the
named places inside them. `Registry.target` finds what a reference means at a base, and
`Registry.site` what stands there.

The base of a reference is the address of the document, or of the nearest schema around it that has
an address of its own.
-/

set_option autoImplicit false

namespace TypeCatalog

/-- A schema with the version it is written in. -/
structure Resource where
  draft : Draft
  schema : Json
deriving Inhabited

/-- A named place. -/
structure Anchor where
  resource : Resource
  /-- Whether a place of the same name in a schema around may take its place. -/
  isDynamic : Bool
deriving Inhabited

/-- A schema with the base of its references. -/
structure Site where
  base : Uri
  resource : Resource
deriving Inhabited

namespace Site

/-! ## Bases -/

/-- The base of schemas that have no address. -/
def rootBase : Uri := ⟨some "json-schema".toList, some ⟨none, .name [], none⟩, ['/'], none, none⟩

/-- The base and what a reference means there, in normal form. -/
def resolveAt (base : Uri) (reference : String) (r : Uri) : Except SchemaFault Uri :=
  match base.resolve r with
  | .error f => .error (.unresolvable reference base.text f)
  | .ok u => .ok u.normalized

/-- What a reference means at a base. A fragment that the base ends with leaves it as it is. -/
def resolve (base : Uri) (reference : String) : Except SchemaFault Uri :=
  if Fragment.isLocal reference && reference.toList.isSuffixOf base.text.toList then .ok base
  else
    match Uri.parse reference with
    | .error f => .error (.invalidReference reference f)
    | .ok r => resolveAt base reference r

/-- The address that a text gives by itself. -/
def ofText (text : String) : Except SchemaFault Uri :=
  match Uri.parse text with
  | .error f => .error (.invalidReference text f)
  | .ok u =>
    if u.scheme.isSome then .ok u.normalized else resolveAt rootBase text u.normalized

/-- The base of the references inside a schema. -/
def enter (base : Uri) (resource : Resource) : Except SchemaFault Uri :=
  match resource.draft.ownAddress? resource.schema with
  | none => .ok base
  | some a => resolve base a

/-- The address of a schema by itself. -/
def address (resource : Resource) : Except SchemaFault Uri :=
  match resource.draft.ownAddress? resource.schema with
  | none => .ok rootBase
  | some a => ofText a

/-! ## Places inside a document -/

/-- The bytes of a text in which percent signs begin octets. -/
def decodedBytes : List Char → List UInt8
  | '%' :: a :: b :: cs =>
    if Ascii.isHexDigit a && Ascii.isHexDigit b then
      UInt8.ofNat (Ascii.valueOf 16 [a, b]) :: decodedBytes cs
    else 0x25 :: decodedBytes (a :: b :: cs)
  | c :: cs => c.toString.toUTF8.toList ++ decodedBytes cs
  | [] => []

/-- The part of a schema that a segment of a pointer leads to, and the name of the part, if it has
one. The whole pointer is for messages. -/
def part (pointer : String) (schema : Json) (segment : List Char) :
    Except SchemaFault (Option String × Json) :=
  match schema with
  | .array xs =>
    match Pointer.index? segment with
    | none => .error (.invalidIndex (String.ofList segment) pointer)
    | some i => (xs[i]?).elim (.error (.noPlace pointer)) fun x => .ok (none, x)
  | v =>
    let name := String.ofList (Pointer.unescaped segment)
    (v.member? name).elim (.error (.noPlace pointer)) fun x => .ok (some name, x)

/-- One step of a pointer, behind some steps that stand in reverse. A part that is a schema is
entered. -/
def step (pointer : String) (reached : Site × List (Option String)) (segment : List Char) :
    Except SchemaFault (Site × List (Option String)) := do
  let (site, path) := reached
  let (name, schema) ← part pointer site.resource.schema segment
  let path := name :: path
  let resource : Resource := ⟨site.resource.draft, schema⟩
  let base ←
    if resource.draft.leadsToSchema schema.isObject path.reverse then enter site.base resource
    else pure site.base
  pure (⟨base, resource⟩, path)

/-- The place that a pointer, which begins with a slash, leads to. -/
def walk (s : Site) (pointer : String) : Except SchemaFault Site :=
  match String.fromUTF8? ⟨(decodedBytes pointer.toList.tail).toArray⟩ with
  | none => .error (.invalidOctets pointer)
  | some text => ((text.toList.splitOn '/').foldlM (step pointer) (s, [])).map (·.1)

end Site

/-- The documents that can be reached from a schema. -/
structure Registry where
  /-- The documents by their addresses, the last one first. -/
  resources : List (String × Resource)
  /-- The named places by the addresses of their documents and their names, the last one first. -/
  anchors : List ((String × String) × Anchor)
deriving Inhabited

namespace Registry

def empty : Registry := ⟨[], []⟩

def resource? (r : Registry) (address : String) : Option Resource := r.resources.lookup address

def addResource (r : Registry) (address : String) (resource : Resource) : Registry :=
  { r with resources := (address, resource) :: r.resources }

/-- The registry with the names that a schema gives itself inside the document at an address. -/
def addAnchors (r : Registry) (address : String) (resource : Resource) : Registry :=
  let found := (resource.draft.anchors resource.schema).map fun (name, isDynamic) =>
    ((address, name), Anchor.mk resource isDynamic)
  { r with anchors := found.reverse ++ r.anchors }

/-- The named place in the document at an address. The document may know it by the address that it
gives itself. -/
def anchor (r : Registry) (address name : String) : Except SchemaFault Anchor := do
  if let some a := r.anchors.lookup (address, name) then return a
  let id := (r.resource? address).bind fun found => found.draft.ownAddress? found.schema
  let other ← match id with
    | none => pure none
    | some text => do pure (r.anchors.lookup ((← Site.ofText text).text, name))
  match other with
  | some a => pure a
  | none =>
    .error (if name.toList.contains '/' then .invalidAnchor name else .noAnchor name)

/-- Whether a place of a name in the document at an address takes the place of others. -/
def hasDynamic (r : Registry) (name address : String) : Bool :=
  match r.anchor address name with
  | .ok a => a.isDynamic
  | .error _ => false

/-- Whether the document at an address takes the place of those inside it that refer to themselves.
-/
def isRecursive (r : Registry) (address : String) : Bool :=
  ((r.resource? address).bind fun found => found.schema.member? "$recursiveAnchor")
    = some (.bool true)

/-- What a reference means at a base. The last number sign divides it. -/
def target (base : Uri) (reference : String) : Except SchemaFault Target :=
  if Fragment.isLocal reference then
    .ok (.within base.text (String.ofList reference.toList.tail))
  else
    let (reversedFragment, reversedRest) := reference.toList.reverse.span (· ≠ '#')
    let (document, fragment) :=
      if reversedRest.isEmpty then (reference, "")
      else (String.ofList reversedRest.tail.reverse, String.ofList reversedFragment.reverse)
    (Site.resolve base document).map fun uri => .within uri.text fragment

/-- What stands at a target, and whether it is a place whose place others may take. -/
def find (r : Registry) (t : Target) : Except SchemaFault (Site × Bool) :=
  match r.resource? t.address, Uri.parse t.address with
  | none, _ => .error (.uncollected t.address)
  | _, .error f => .error (.invalidReference t.address f)
  | some document, .ok base =>
    if t.fragment.isEmpty then .ok (⟨base, document⟩, false)
    else if t.fragment.toList.head? = some '/' then
      (Site.walk ⟨base, document⟩ t.fragment).map (·, false)
    else do
      let a ← r.anchor t.owner t.fragment
      if a.isDynamic then pure (⟨← Site.enter base a.resource, a.resource⟩, true)
      else pure (⟨base, a.resource⟩, false)

/-- What stands at a target. -/
def site (r : Registry) (t : Target) : Except SchemaFault Site := (r.find t).map (·.1)

end Registry

end TypeCatalog
