import Mathlib.Data.List.Nodup
import Mathlib.Data.List.Pairwise
import TypeCatalog.Proofs.Catalog.Success
import TypeCatalog.Proofs.TypeMap.Nodes

/-!
# Names of a batch

No two definitions of a batch have the same name, but a variant stands for a type of its own, whose
name is made of two names, and nothing keeps it from being the name of a definition or of a variant
of another record. `VariantsFree` says that it is not.

The main statement, `unambiguous_iff_variantsFree`, says that this is all that matters: the
documents of a batch have different names exactly when its variants are free, and then each name
leads to one and the same document, whether the document, its fingerprint, its validator or its
node in the type map is asked for.

The names are `Definition.typeName` and `Definition.variantTypeNames`, and `Emitter.documentsOf`
gives the documents under them. `Store` compilation checks the declared names only (`readAll`), so
`VariantsFree` is a hypothesis on the store and not a fact. `unambiguous_of_nodup` goes through
`document?`, `fingerprint?`, `validator?` and `TypeMap.node?`.
-/

set_option autoImplicit false

namespace TypeCatalog

/-! ## Names of variants -/

namespace Definition

/-- The variants of a definition, none where it is no record. -/
def variants (d : Definition) : List Variant :=
  match d.body with
  | .record r => r.variantList
  | _ => []

/-- The names of the types that the variants of a definition stand for. -/
def variantTypeNames (d : Definition) : List String := d.variants.map d.variantTypeName

/-- The variants of a well-formed definition have identifiers for names. -/
theorem WellFormed.isIdentifier_of_mem_variants {d : Definition} (h : d.WellFormed) {v : Variant}
    (hv : v ∈ d.variants) : Name.isIdentifier v.name = true := by
  unfold variants at hv
  split at hv
  · next r hr => exact (h.record r hr).variant v hv
  · cases hv

/-- And these differ. -/
theorem WellFormed.variants_nodup {d : Definition} (h : d.WellFormed) :
    (d.variants.map (·.name)).Nodup := by
  unfold variants
  split
  · next r hr => exact (h.record r hr).variants
  · exact .nil

/-- So the names that are made for the types of variants are identifiers, too. -/
theorem WellFormed.isIdentifier_variantName {d : Definition} (h : d.WellFormed) {v : Variant}
    (hv : v ∈ d.variants) : Name.isIdentifier (d.variantName v) = true :=
  Name.isIdentifier_append_pascalCase h.name (h.isIdentifier_of_mem_variants hv)

/-- The type of a record and those of its variants have different names. -/
theorem WellFormed.typeNames_nodup {d : Definition} (h : d.WellFormed) :
    (d.typeName :: d.variantTypeNames).Nodup := by
  refine List.nodup_cons.2 ⟨fun hmem => ?_, ?_⟩
  · obtain ⟨v, hv, heq⟩ := List.mem_map.1 hmem
    obtain ⟨-, hname⟩ := Name.qualify_injective (h.isIdentifier_variantName hv) h.name heq
    exact Name.append_pascalCase_ne (h.isIdentifier_of_mem_variants hv) hname
  · have hinjective : ∀ v ∈ d.variants, ∀ w ∈ d.variants,
        d.variantTypeName v = d.variantTypeName w → v.name = w.name := by
      intro v hv w hw heq
      obtain ⟨-, hname⟩ := Name.qualify_injective (h.isIdentifier_variantName hv)
        (h.isIdentifier_variantName hw) heq
      have hlist := congrArg String.toList hname
      unfold variantName at hlist
      rw [String.toList_append, String.toList_append] at hlist
      exact Name.pascalCase_injective (h.isIdentifier_of_mem_variants hv)
        (h.isIdentifier_of_mem_variants hw)
        (String.toList_inj.1 (List.append_cancel_left hlist))
    have hnodup := h.variants_nodup
    refine List.Nodup.map_on (fun v hv w hw heq => ?_) (List.Nodup.of_map _ hnodup)
    exact List.inj_on_of_nodup_map hnodup hv hw (hinjective v hv w hw heq)

end Definition

/-- No variant of some definitions stands for a type whose name another definition or a variant of
another definition has. -/
structure VariantsFree (ds : List Definition) : Prop where
  types : ∀ d ∈ ds, ∀ t ∈ ds, t.typeName ∉ d.variantTypeNames
  variants : ∀ d ∈ ds, ∀ t ∈ ds, d ≠ t → List.Disjoint d.variantTypeNames t.variantTypeNames

/-! ## Names of documents -/

namespace Emitter

variable {e : Emitter} {d : Definition}

/-- The documents of a definition have the names of the definition and of its variants. -/
theorem typeNames_documentsOf :
    (e.documentsOf d).map (·.typeName) = d.typeName :: d.variantTypeNames := by
  unfold documentsOf variantDocuments Definition.variantTypeNames Definition.variants
  rw [List.map_cons]
  congr 1
  cases d.body with
  | record r =>
      show (r.variantList.map (e.variantDocument d r)).map (·.typeName) = _
      rw [List.map_map]
      rfl
  | _ => rfl

/-- A document is named by a system and an identifier. -/
theorem exists_of_mem_documentsOf (h : d.WellFormed) {document : Document}
    (hdocument : document ∈ e.documentsOf d) : ∃ system name,
      document.typeName = Name.qualify system name
        ∧ Name.isIdentifier system = true ∧ Name.isIdentifier name = true := by
  have hmem : document.typeName ∈ d.typeName :: d.variantTypeNames := by
    rw [← typeNames_documentsOf (e := e)]
    exact List.mem_map.2 ⟨document, hdocument, rfl⟩
  rcases List.mem_cons.1 hmem with heq | hmem
  · exact ⟨d.header.system, d.header.name, heq, h.system, h.name⟩
  · obtain ⟨v, hv, heq⟩ := List.mem_map.1 hmem
    exact ⟨d.header.system, d.variantName v, heq.symm, h.system, h.isIdentifier_variantName hv⟩

end Emitter

/-- The documents of well-formed definitions with different names have different names themselves
exactly when the variants are free. -/
theorem typeNames_flatMap_nodup_iff {e : Emitter} {ds : List Definition}
    (hwellFormed : ∀ d ∈ ds, d.WellFormed) (hnodup : (ds.map (·.typeName)).Nodup) :
    ((ds.flatMap e.documentsOf).map (·.typeName)).Nodup ↔ VariantsFree ds := by
  have hsymmetric : Std.Symm (Function.onFun List.Disjoint
      fun d : Definition => d.typeName :: d.variantTypeNames) :=
    ⟨fun _ _ h _ hn hn' => h hn' hn⟩
  rw [List.map_flatMap, List.nodup_flatMap]
  simp only [Emitter.typeNames_documentsOf]
  constructor
  · rintro ⟨-, hpairwise⟩
    -- Two definitions share a name of a document only if one of the hypotheses fails.
    have hdisjoint := fun d hd t ht => hpairwise.forall (a := d) (b := t) hd ht
    refine ⟨fun d hd t ht hmem => ?_, fun d hd t ht hne n hn hn' => ?_⟩
    · by_cases heq : d = t
      · subst heq
        exact (List.nodup_cons.1 (hwellFormed d hd).typeNames_nodup).1 hmem
      · exact hdisjoint d hd t ht heq (.tail _ hmem) (.head _)
    · exact hdisjoint d hd t ht hne (.tail _ hn) (.tail _ hn')
  · intro h
    refine ⟨fun d hd => (hwellFormed d hd).typeNames_nodup, ?_⟩
    refine (List.Nodup.of_map _ hnodup).pairwise_of_forall_ne fun d hd t ht hne n hn hn' => ?_
    rcases List.mem_cons.1 hn with rfl | hn
    · rcases List.mem_cons.1 hn' with heq | hn'
      · exact hne (List.inj_on_of_nodup_map hnodup hd ht heq)
      · exact h.types t ht d hd hn'
    · rcases List.mem_cons.1 hn' with rfl | hn'
      · exact h.types d hd t ht hn
      · exact h.variants d hd t ht hne hn hn'

/-! ## The type map -/

namespace Builder

/-- The documents of a definition, each with the examples that its node gets. -/
def entriesOf (e : Emitter) (d : Definition) : List (List Json × Document) :=
  (d.examples.map (·.value), e.typeDocument d) :: (e.variantDocuments d).map fun v => ([], v)

/-- The documents are entered with the examples of the definition. -/
theorem map_snd_entriesOf (e : Emitter) (d : Definition) :
    (entriesOf e d).map Prod.snd = e.documentsOf d := by
  unfold entriesOf Emitter.documentsOf
  rw [List.map_cons, List.map_map]
  congr 1
  exact List.map_id _

/-- The nodes of a definition are those of its documents, one behind the other. -/
theorem definitionNodes_eq (b : Builder) (e : Emitter) (d : Definition) :
    b.definitionNodes d ⟨e.typeDocument d, e.variantDocuments d⟩
      = TypeMap.concat ((entriesOf e d).map fun p => b.documentNodes p.1 p.2) := by
  unfold definitionNodes entriesOf
  rw [List.map_cons, TypeMap.concat_cons, List.map_map]
  rfl

end Builder

/-- Going through a list with a step that adds the nodes of some maps adds the nodes of all of
them. -/
theorem TypeMap.foldl_eq_append_concat {α : Type} {step : TypeMap → α → TypeMap}
    {f : α → List TypeMap} {xs : List α} (h : ∀ m, ∀ x ∈ xs, step m x = m ++ concat (f x))
    (m : TypeMap) : xs.foldl step m = m ++ concat (xs.flatMap f) := by
  induction xs generalizing m with
  | nil => exact (append_empty m).symm
  | cons x xs ih =>
      rw [List.foldl_cons, h m x (.head _), ih fun n y hy => h n y (.tail _ hy), List.flatMap_cons,
        concat_append, append_assoc]

/-- Going through a list and leaving out some items goes through the others. -/
theorem TypeMap.flatMap_filter {α β : Type} (p : α → Bool) (f : α → List β) (xs : List α) :
    (xs.filter p).flatMap f = xs.flatMap fun x => if p x then f x else [] := by
  induction xs with
  | nil => rfl
  | cons x xs ih =>
      rw [List.filter_cons, List.flatMap_cons, ← ih]
      cases p x <;> rfl

namespace Catalog

variable {settings : Settings} {formats : List Format} {store : Store}

/-- The type map holds the nodes of the documents of the batch, definition by definition. -/
theorem typeMap_ofStore : (ofStore settings formats store).typeMap
    = TypeMap.concat (((resolved settings formats store).flatMap
        (Builder.entriesOf (.ofDomain settings.domain))).map fun p =>
          (Builder.withEnums settings.domain
            (ofStore settings formats store).definitions).documentNodes
            p.1 p.2) := by
  have hnodup := @typeNames_nodup settings formats store
  rw [List.map_flatMap, resolved, resolvedOf, TypeMap.flatMap_filter]
  refine (TypeMap.foldl_eq_append_concat (fun m d hd => ?_) TypeMap.empty).trans rfl
  rw [emitted_ofStore, lookup_emittedOf hnodup hd]
  cases isResolved (.ofDomain settings.domain) (ofStore settings formats store).definitions d with
  | false => exact (TypeMap.append_empty m).symm
  | true =>
      simp only [if_true, ← Builder.definitionNodes_eq]
      rfl

/-! ## One document for a name -/

/-- Each name of a batch leads to one and the same document, whatever is asked for. -/
structure Unambiguous (settings : Settings) (formats : List Format) (store : Store) : Prop where
  /-- The documents, of types and of variants, have different names. -/
  distinct : ((ofStore settings formats store).documents.map (·.typeName)).Nodup
  /-- The fingerprint of a name is that of its document. -/
  fingerprint : ∀ system name document,
    (ofStore settings formats store).document? system name = some document →
    (ofStore settings formats store).fingerprint? system name = some (.ofJson document.schema)
  /-- The validator of a name is built of its document. -/
  validator : ∀ system name document t,
    (ofStore settings formats store).document? system name = some document →
    (ofStore settings formats store).validator? system name = some t →
    (engineOf settings formats store).build document.schema = .ok t.single
  /-- The node of a name is the one that its document gets. -/
  node : ∀ system name document,
    (ofStore settings formats store).document? system name = some document →
    ∃ examples node,
      ((Builder.withEnums settings.domain
        (ofStore settings formats store).definitions).documentNodes
        examples document).node? (Name.qualify system name) = some node
      ∧ (ofStore settings formats store).typeMap.node? (Name.qualify system name) = some node
  /-- A name that no document has leads nowhere. -/
  absent : ∀ system name, (ofStore settings formats store).document? system name = none →
    (ofStore settings formats store).fingerprint? system name = none
      ∧ (ofStore settings formats store).validator? system name = none

/-- The document that is found for a name is one of the batch and has the name. -/
theorem of_document?_eq_some {c : Catalog} {system name : String} {document : Document}
    (h : c.document? system name = some document) :
    document ∈ c.documents ∧ document.typeName = Name.qualify system name :=
  ⟨List.mem_of_find?_eq_some h, by simpa using List.find?_some h⟩

/-- The documents of a batch have names of an identifier for the system and one for the type. -/
theorem exists_of_mem_documents {document : Document}
    (h : document ∈ (ofStore settings formats store).documents) : ∃ system name,
      document.typeName = Name.qualify system name
        ∧ Name.isIdentifier system = true ∧ Name.isIdentifier name = true := by
  obtain ⟨d, hd, hdocument⟩ := mem_documents.1 h
  exact Emitter.exists_of_mem_documentsOf (wellFormed_of_mem (mem_resolvedOf.1 hd).1) hdocument

/-- Where documents have different names, the engine holds each of them under its own name. -/
theorem lookup_engineOf
    (hnodup : ((ofStore settings formats store).documents.map (·.typeName)).Nodup)
    {document : Document} (h : document ∈ (ofStore settings formats store).documents) :
    (engineOf settings formats store).addresses.lookup document.typeName = some document.uri
      ∧ (engineOf settings formats store).documents.lookup document.uri = some document.schema := by
  have huris : ((ofStore settings formats store).documents.map (·.uri)).Nodup := by
    refine List.Nodup.map_on (fun x hx y hy heq => ?_) (List.Nodup.of_map _ hnodup)
    rw [uri_of_mem_documents hx, uri_of_mem_documents hy] at heq
    exact List.inj_on_of_nodup_map hnodup hx hy (Emitter.uri_injective _ heq)
  unfold engineOf
  rw [Engine.ofDocuments_eq]
  exact ⟨Table.lookup_foldl_insert hnodup [] h, Table.lookup_foldl_insert huris [] h⟩

/-- The validators of a name are built of the document that the engine holds for it, and of the
schema of lists over it. -/
theorem build_of_compile_eq_ok {e : Engine} {name uri : String} {schema : Json} {t : TypeValidator}
    (huri : e.addresses.lookup name = some uri) (hschema : e.documents.lookup uri = some schema)
    (h : e.compile name = .ok t) :
    e.build schema = .ok t.single ∧ e.build (Engine.listSchema uri) = .ok t.list := by
  rw [Engine.compile, huri] at h
  dsimp only at h
  rw [hschema] at h
  obtain ⟨single, hsingle, h⟩ := Result.bind_eq_ok.1 h
  obtain ⟨list, hlist, h⟩ := Result.bind_eq_ok.1 h
  cases h
  exact ⟨hsingle, hlist⟩

/-- The documents that get nodes in the type map are those of the batch. -/
theorem exists_of_mem_entries : ∀ p ∈ (resolved settings formats store).flatMap
      (Builder.entriesOf (.ofDomain settings.domain)), ∃ system name,
    p.2.typeName = Name.qualify system name
      ∧ Name.isIdentifier system = true ∧ Name.isIdentifier name = true := by
  intro p hp
  obtain ⟨d, hd, hp⟩ := List.mem_flatMap.1 hp
  have hmem : p.2 ∈ (Emitter.ofDomain settings.domain).documentsOf d := by
    rw [← Builder.map_snd_entriesOf]
    exact List.mem_map.2 ⟨p, hp, rfl⟩
  exact exists_of_mem_documents (mem_documents.2 ⟨d, hd, hmem⟩)

/-- Where the documents have different names, so have the entries. -/
theorem typeNames_entries_nodup
    (hnodup : ((ofStore settings formats store).documents.map (·.typeName)).Nodup) :
    (((resolved settings formats store).flatMap
      (Builder.entriesOf (.ofDomain settings.domain))).map (·.2.typeName)).Nodup := by
  rw [(documents_perm_resolved.map (·.typeName)).nodup_iff, List.map_flatMap] at hnodup
  rw [List.map_flatMap]
  simpa only [← Builder.map_snd_entriesOf, List.map_map, Function.comp_def] using hnodup

/-- On a successful batch every definition has documents. -/
theorem resolved_eq_definitions (h : (ofStore settings formats store).isSuccessful = true) :
    resolved settings formats store = (ofStore settings formats store).definitions := by
  obtain ⟨-, hresolves, -⟩ := isSuccessful_iff_stages.1 h
  rw [unresolvedOf_noErrors_iff typeNames_nodup] at hresolves
  refine List.filter_eq_self.2 fun d hd => List.isEmpty_iff.2 ?_
  exact (Emitter.unresolvedReferences_eq_nil_iff typeNames_nodup).2 (hresolves d hd)

/-- Where documents have different names, a name leads to one document. -/
theorem unambiguous_of_nodup
    (hnodup : ((ofStore settings formats store).documents.map (·.typeName)).Nodup) :
    Unambiguous settings formats store where
  distinct := hnodup
  fingerprint system name document h := by rw [fingerprint?, h, Option.map_some]
  validator system name document t h ht := by
    obtain ⟨hmem, hname⟩ := of_document?_eq_some h
    obtain ⟨huri, hschema⟩ := lookup_engineOf hnodup hmem
    rw [hname] at huri
    exact (build_of_compile_eq_ok huri hschema (lookup_validators.1 ht).2).1
  node system name document h := by
    obtain ⟨hmem, hname⟩ := of_document?_eq_some h
    obtain ⟨d, hd, hdocument⟩ := mem_documents.1 hmem
    rw [← Builder.map_snd_entriesOf] at hdocument
    obtain ⟨⟨examples, _⟩, hentry, rfl⟩ := List.mem_map.1 hdocument
    have hnode := Builder.node?_concat_documentNodes
      (b := .withEnums settings.domain (ofStore settings formats store).definitions)
      (@exists_of_mem_entries settings formats store)
      (typeNames_entries_nodup hnodup) (List.mem_flatMap.2 ⟨d, hd, hentry⟩)
    rw [← typeMap_ofStore] at hnode
    obtain ⟨s, n, hsn, -, hn⟩ := exists_of_mem_documents hmem
    obtain ⟨node, hfound⟩ := TypeMap.exists_node?_of_mem (@Builder.typeName_mem_documentNodes
      (.withEnums settings.domain (ofStore settings formats store).definitions) examples _
        s n hn hsn)
    rw [← hname]
    exact ⟨examples, node, hfound, hnode.trans hfound⟩
  absent system name h := by
    refine ⟨by rw [fingerprint?, h, Option.map_none], ?_⟩
    cases ht : (ofStore settings formats store).validator? system name with
    | none => rfl
    | some t =>
        obtain ⟨⟨document, hmem, hname⟩, -⟩ := lookup_validators.1 ht
        have hnone := List.find?_eq_none.1 h document hmem
        exact absurd (decide_eq_true hname) hnone

/-- A batch is unambiguous exactly when its variants are free. On a successful batch this is about
all definitions. -/
theorem unambiguous_iff_variantsFree (settings : Settings) (formats : List Format) (store : Store) :
    (Unambiguous settings formats store ↔ VariantsFree (resolved settings formats store))
      ∧ ((ofStore settings formats store).isSuccessful = true →
        resolved settings formats store = (ofStore settings formats store).definitions) := by
  have hiff : ((ofStore settings formats store).documents.map (·.typeName)).Nodup
      ↔ VariantsFree (resolved settings formats store) := by
    rw [(documents_perm_resolved.map (·.typeName)).nodup_iff]
    exact typeNames_flatMap_nodup_iff
      (fun d hd => wellFormed_of_mem (mem_resolvedOf.1 hd).1)
      (typeNames_resolvedOf typeNames_nodup)
  exact ⟨⟨fun h => hiff.1 h.distinct, fun h => unambiguous_of_nodup (hiff.2 h)⟩,
    resolved_eq_definitions⟩

end Catalog

end TypeCatalog
