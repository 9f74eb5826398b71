import TypeCatalog.Proofs.Catalog.Properties
import TypeCatalog.Proofs.TypeMap.Construction

/-!
# Nodes of documents

Where the documents of a batch have different names, the name of a document leads into the nodes of
that document and nowhere else (`Catalog.Enters`). What the builder makes of a document as a
whole depends on two things: whether a definition of an enum has the name of the document, and which
of `enum`, `$ref` and `type` the document has. There is one lemma for each sort of root: enums,
references and scalars.

`Entry.IsRootOf` is said of the entry that `Construction.addDocument` makes, and `TypeMap.Agree`
carries a lookup in the map of the batch over to the nodes of the one document.
-/

set_option autoImplicit false

namespace TypeCatalog

/-! ## Roots by sort -/

namespace Builder

variable {b : Builder} {root : Entry} {schema : Json}

/-- A document that has the name of an enum is entered as that enum, whatever it says. -/
theorem exists_refOf?_of_enum (hroot : root.isRoot = true) {declared : EnumRoot}
    (henum : b.enums.lookup root.typeName = some declared) :
    ∃ n, b.refOf? root schema = some n ∧ n.target = "string" ∧ n.arrayCount = root.depth
      ∧ n.isRoot = true ∧ n.isScalar = false ∧ n.isEnum = true := by
  unfold refOf?
  rw [hroot, if_pos rfl, henum]
  exact ⟨_, rfl, rfl, rfl, hroot, rfl, rfl⟩

section

variable (hother : b.enums.lookup root.typeName = none) (henum : schema.member? "enum" = none)

include hother henum

/-- A document that refers to a type is entered as a reference to it. -/
theorem refOf?_of_ref {t : String} (ht : Name.IsTypeName t)
    (href : schema.member? "$ref" = some (.string ((Emitter.ofDomain b.domain).uri t))) :
    b.refOf? root schema = some (root.ref t false) := by
  unfold refOf?
  rw [hother, ite_self, henum, href]
  show some (root.ref (Name.resolve (some b.domain) root.system _) false) = _
  rw [Name.resolve_uri ht]

/-- A document whose type is a primitive is entered as a scalar. -/
theorem refOf?_of_type {t : String} (href : schema.member? "$ref" = none)
    (htype : schema.member? "type" = some (.string t)) (ht : primitives.contains t = true) :
    b.refOf? root schema = some (root.ref t true) := by
  unfold refOf?
  rw [hother, ite_self, henum, href, htype]
  show (if primitives.contains t = true then some (root.ref t true) else none) = _
  rw [if_pos ht]

end

end Builder

/-! ## Documents of demands -/

/-- The primitive that a demand for a single value is written down as. -/
def Demand.primitive? : Demand → Option String
  | bool => some "boolean"
  | int _ _ => some "integer"
  | float _ => some "number"
  | string _ => some "string"
  | _ => none

/-- The primitive type that a demand is entered as is one of those that `type` may name. -/
theorem Demand.contains_of_primitive? {demand : Demand} {t : String}
    (h : demand.primitive? = some t) : Builder.primitives.contains t = true := by
  cases demand <;> cases h <;> decide

/-- What a definition of a single value asks for is such a demand. -/
theorem Definition.exists_primitive? {d : Definition}
    (hkind : d.kind ∈ [.bool, .int, .float, .string]) {entry : String × Demand}
    (hentry : entry ∈ d.demands) : ∃ t, entry.2.primitive? = some t := by
  unfold kind at hkind
  unfold demands at hentry
  cases hbody : d.body with
  | bool _ =>
      rw [hbody] at hentry
      exact List.mem_singleton.1 hentry ▸ ⟨_, rfl⟩
  | int _ =>
      rw [hbody] at hentry
      exact List.mem_singleton.1 hentry ▸ ⟨_, rfl⟩
  | float _ =>
      rw [hbody] at hentry
      exact List.mem_singleton.1 hentry ▸ ⟨_, rfl⟩
  | string _ =>
      rw [hbody] at hentry
      exact List.mem_singleton.1 hentry ▸ ⟨_, rfl⟩
  | _ =>
      rw [hbody] at hkind
      simp [Body.kind] at hkind

/-- A demand for a single value writes down its primitive, and no list of values. -/
theorem Emitter.lookup_demandMembers (e : Emitter) {demand : Demand} {t : String}
    (h : demand.primitive? = some t) :
    (e.demandMembers demand).lookup "type" = some (.string t)
      ∧ (e.demandMembers demand).lookup "enum" = none := by
  cases demand with
  | bool =>
      cases h
      exact ⟨rfl, rfl⟩
  | int low high =>
      cases h
      exact ⟨rfl, rfl⟩
  | float b =>
      cases h
      dsimp only [demandMembers]
      cases b.isMinimumExclusive.getD false <;> cases b.isMaximumExclusive.getD false <;>
        exact ⟨rfl, rfl⟩
  | string b =>
      cases h
      dsimp only [demandMembers]
      cases b.minimumLength.getD 0 <;> cases b.regex <;> exact ⟨rfl, rfl⟩
  | enum values => cases h
  | record system properties required => cases h

/-- What is no member of a header is read of the demand. -/
theorem Emitter.member?_demandSchema (e : Emitter) {typeName name : String} {header : Header}
    {demand : Demand}
    (hname : name ∉ ["$schema", "$id", "title", "description", "deprecated", "examples"]) :
    (e.demandSchema typeName header demand).member? name
      = (e.demandMembers demand).lookup name := by
  show List.lookup name (e.headerMembers typeName header ++ _) = _
  rw [Table.lookup_eq_map_find?, find?_headerMembers_append _ hname, ← Table.lookup_eq_map_find?]

/-- The document of a demand for a single value is entered as a scalar. -/
theorem Builder.refOf?_of_primitive? {b : Builder} {root : Entry} {e : Emitter} {typeName : String}
    {header : Header} {demand : Demand} (hother : b.enums.lookup root.typeName = none) {t : String}
    (h : demand.primitive? = some t) :
    b.refOf? root (e.demandSchema typeName header demand) = some (root.ref t true) := by
  obtain ⟨htype, henum⟩ := e.lookup_demandMembers h
  refine refOf?_of_type hother ?_ Emitter.member?_ref_demandSchema ?_
    (Demand.contains_of_primitive? h)
  · exact (e.member?_demandSchema (by decide)).trans henum
  · exact (e.member?_demandSchema (by decide)).trans htype

/-! ## Roots of a batch -/

namespace Catalog

variable {settings : Settings} {formats : List Format} {store : Store}

/-- Whether an entry is that of a document in the type map of a batch: it has the name of the
document, and the names under it lead to the nodes of the document. -/
structure Enters (settings : Settings) (formats : List Format) (store : Store) (root : Entry)
    (document : Document) : Prop extends Entry.IsRootOf root document.typeName where
  agree : ∀ node, Builder.IsUnder root node → (ofStore settings formats store).typeMap.Agree
    ((builderOf settings formats store).nodes root document.schema) node

section

variable (hnodup : ((ofStore settings formats store).documents.map (·.typeName)).Nodup)

include hnodup

/-- Each document of the batch is entered with a root of its name. -/
theorem enters_of_mem_entries {entry : List Json × Document}
    (hentry : entry ∈ (resolved settings formats store).flatMap
      (Builder.entriesOf (.ofDomain settings.domain))) :
    ∃ root, Enters settings formats store root entry.2
      ∧ (builderOf settings formats store).documentNodes entry.1 entry.2
        = (builderOf settings formats store).nodes root entry.2.schema := by
  obtain ⟨system, name, hname, hs, hn⟩ := exists_of_mem_entries entry hentry
  have hroot : Entry.IsRootOf ⟨system, name, true, entry.1, 0⟩ entry.2.typeName :=
    ⟨hname.symm, rfl, rfl, hs, hn⟩
  have hnodes := @Builder.documentNodes_eq (builderOf settings formats store) entry.1 _ _ _ hn hname
  refine ⟨_, ⟨hroot, fun node hnode => ?_⟩, hnodes⟩
  rw [← hnodes, typeMap_ofStore]
  exact Builder.agree_concat_of_isUnder exists_of_mem_entries (typeNames_entries_nodup hnodup)
    hentry hroot.typeName.symm hroot.system hroot.name hnode

/-- Every document of a batch is entered. -/
theorem exists_enters {document : Document}
    (h : document ∈ (ofStore settings formats store).documents) :
    ∃ root, Enters settings formats store root document := by
  obtain ⟨d, hd, hdocument⟩ := mem_documents.1 h
  rw [← Builder.map_snd_entriesOf] at hdocument
  obtain ⟨entry, hentry, rfl⟩ := List.mem_map.1 hdocument
  obtain ⟨root, henters, -⟩ := enters_of_mem_entries hnodup (List.mem_flatMap.2 ⟨d, hd, hentry⟩)
  exact ⟨root, henters⟩

/-- Every name of the type map is that of a node of a document. -/
theorem exists_enters_of_mem_typeNames {name : String}
    (h : name ∈ (ofStore settings formats store).typeMap.typeNames) :
    ∃ document ∈ (ofStore settings formats store).documents, ∃ root,
      Enters settings formats store root document
      ∧ name ∈ ((builderOf settings formats store).nodes root document.schema).typeNames := by
  rw [typeMap_ofStore] at h
  obtain ⟨nodes, hnodes, hname⟩ := TypeMap.mem_typeNames_concat.1 h
  obtain ⟨entry, hentry, rfl⟩ := List.mem_map.1 hnodes
  obtain ⟨root, henters, heq⟩ := enters_of_mem_entries hnodup hentry
  obtain ⟨d, hd, hmem⟩ := List.mem_flatMap.1 hentry
  have hdocument : entry.2 ∈ (Emitter.ofDomain settings.domain).documentsOf d := by
    rw [← Builder.map_snd_entriesOf]
    exact List.mem_map.2 ⟨entry, hmem, rfl⟩
  exact ⟨entry.2, mem_documents.2 ⟨d, hd, hdocument⟩, root, henters, heq ▸ hname⟩

/-- A type without a document has no node. -/
theorem find?_eq_none_of_isTypeName {t : String} (ht : Name.IsTypeName t)
    (h : ∀ document ∈ (ofStore settings formats store).documents, document.typeName ≠ t) :
    (ofStore settings formats store).typeMap.ref? t = none
      ∧ (ofStore settings formats store).typeMap.object? t = none := by
  refine TypeMap.find?_eq_none_of_notMem fun hmem => ?_
  obtain ⟨document, hdocument, root, henters, hname⟩ := exists_enters_of_mem_typeNames hnodup hmem
  obtain ⟨system, name, hs, hn, rfl⟩ := ht
  have hunder := Builder.isUnder_of_mem_nodes _ root document.schema _ hname
  have hself : Builder.IsUnder ⟨system, name, true, [], 0⟩ (Name.qualify system name) := .inl rfl
  have heq := Builder.isUnder_unique henters.system henters.name hs hn hunder hself
  exact h document hdocument (henters.typeName.symm.trans heq)

end

section

variable {root : Entry} {document : Document} (h : Enters settings formats store root document)

include h

/-- The reference that a document is entered as is found by its name. -/
theorem Enters.ref? {n : RefNode}
    (href : (builderOf settings formats store).refOf? root document.schema = some n) :
    (ofStore settings formats store).typeMap.ref? document.typeName = some n := by
  rw [(h.agree _ (.inl h.typeName.symm)).1, Builder.nodes_of_refOf? href]
  have hname : n.typeName = document.typeName :=
    (Builder.refOf?_typeName href).trans h.typeName
  exact List.find?_cons_of_pos (decide_eq_true hname)

/-- The name of a document is qualified. -/
theorem Enters.isQualified : TypeMap.isQualified document.typeName = true := by
  rw [← h.typeName]
  exact TypeMap.isQualified_qualify _ _

/-- A document that is entered as a scalar stands for itself. -/
theorem Enters.stops_scalar {t : String}
    (href : (builderOf settings formats store).refOf? root document.schema
      = some (root.ref t true)) (acceptEnums : Bool) :
    (ofStore settings formats store).typeMap.Stops acceptEnums document.typeName 0 .scalar := by
  rw [← h.depth]
  exact .scalar h.isQualified (h.ref? href) h.isRoot rfl

end

/-- No enum has the name of another definition. -/
theorem lookup_enums_eq_none {d : Definition}
    (hd : d ∈ (ofStore settings formats store).definitions) (hkind : d.kind ≠ .enum) :
    (builderOf settings formats store).enums.lookup d.typeName = none :=
  (Builder.lookup_enums_eq_none_iff _).2 (typeName_ne_of_enum hd hkind)

/-- The type of a single value stands for itself. -/
theorem resolve_of_kind
    (hnodup : ((ofStore settings formats store).documents.map (·.typeName)).Nodup)
    {d : Definition} (hd : d ∈ resolved settings formats store)
    (hkind : d.kind ∈ [.bool, .int, .float, .string]) (acceptEnums : Bool) (depth : Nat) :
    (ofStore settings formats store).typeMap.resolve acceptEnums d.typeName depth
      = .ok ⟨d.typeName, depth, .scalar⟩ := by
  have hobject : d.kind ≠ .object := fun heq => absurd (heq ▸ hkind) (by decide)
  have henum : d.kind ≠ .enum := fun heq => absurd (heq ▸ hkind) (by decide)
  have hmem : (Emitter.ofDomain settings.domain).typeDocument d
      ∈ (Emitter.ofDomain settings.domain).documentsOf d := List.mem_cons_self
  obtain ⟨root, henters⟩ := exists_enters hnodup (mem_documents.2 ⟨d, hd, hmem⟩)
  obtain ⟨demand, header, hentry, hschema⟩ :=
    (Emitter.ofDomain settings.domain).exists_demand_of_mem_documentsOf hobject hmem
  obtain ⟨t, ht⟩ := Definition.exists_primitive? hkind hentry
  have hother := lookup_enums_eq_none (mem_resolvedOf.1 hd).1 henum
  rw [show d.typeName = root.typeName from henters.typeName.symm] at hother
  have hstops := henters.stops_scalar (hschema ▸ Builder.refOf?_of_primitive? hother ht) acceptEnums
  exact TypeMap.resolve_of_reaches (.stop hstops) depth

end Catalog

end TypeCatalog
