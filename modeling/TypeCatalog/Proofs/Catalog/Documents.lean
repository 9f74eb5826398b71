import Mathlib.Data.List.Induction
import TypeCatalog.Proofs.Catalog.Reading

/-!
# Documents and validators of a batch

What stands in the tables of a compiled batch. A type is known when a definition has its name. The
documents of the batch are those of the definitions whose references are all known, each at the
address that its name gives. A name has a validator when a document has the name and a validator can
be built of the document that the engine holds for it.

The tables are `KnownTypes.ofDefinitions`, `emittedOf` with the results of `Emitter.emit`,
`Engine.ofDocuments`, and `validatorsOf` with the results of `compileAll`. Each is a fold that
enters one entry after the other, and each gets a lemma that says what a lookup in the whole of it
gives.
-/

set_option autoImplicit false

namespace TypeCatalog

/-! ## Known types -/

namespace KnownTypes

/-- What was put into a sorted list is found under its name. -/
theorem lookup_insertSorted_self (name : String) (kind : TypeKind)
    (kinds : List (String × TypeKind)) :
    (insertSorted name kind kinds).lookup name = some kind := by
  induction kinds with
  | nil => exact List.lookup_cons_self
  | cons entry kinds ih =>
      obtain ⟨n, k⟩ := entry
      unfold insertSorted
      split
      · exact List.lookup_cons_self
      · split
        · exact List.lookup_cons_self
        · next hne =>
            rw [List.lookup_cons, beq_false_of_ne hne]
            exact ih

/-- And other names are found as before. -/
theorem lookup_insertSorted_of_ne {name other : String} (kind : TypeKind)
    (kinds : List (String × TypeKind)) (hne : other ≠ name) :
    (insertSorted name kind kinds).lookup other = kinds.lookup other := by
  induction kinds with
  | nil => rw [insertSorted, List.lookup_cons, beq_false_of_ne hne]
  | cons entry kinds ih =>
      obtain ⟨n, k⟩ := entry
      unfold insertSorted
      split
      · rw [List.lookup_cons, beq_false_of_ne hne]
      · split
        · next heq =>
            rw [List.lookup_cons, List.lookup_cons, ← heq, beq_false_of_ne hne]
        · rw [List.lookup_cons, List.lookup_cons, ih]

/-- A type that was made known has the kind that was given. -/
@[simp]
theorem kind?_insert_self (known : KnownTypes) (name : String) (kind : TypeKind) :
    (known.insert name kind).kind? name = some kind :=
  lookup_insertSorted_self name kind known.kinds

/-- Other types are known as before. -/
theorem kind?_insert_of_ne (known : KnownTypes) {name other : String} (kind : TypeKind)
    (hne : other ≠ name) : (known.insert name kind).kind? other = known.kind? other :=
  lookup_insertSorted_of_ne kind known.kinds hne

/-- Where the names of definitions differ, the known types are the definitions' and no others. -/
theorem kind?_ofDefinitions {ds : List Definition} (hnodup : (ds.map (·.typeName)).Nodup)
    {name : String} {kind : TypeKind} :
    (ofDefinitions ds).kind? name = some kind ↔ ∃ d ∈ ds, d.typeName = name ∧ d.kind = kind := by
  have key (known : KnownTypes) :
      (ds.foldl (fun known d => known.insert d.typeName d.kind) known).kind? name = some kind
        ↔ (∃ d ∈ ds, d.typeName = name ∧ d.kind = kind)
          ∨ (∀ d ∈ ds, d.typeName ≠ name) ∧ known.kind? name = some kind := by
    induction ds generalizing known with
    | nil => simp
    | cons d ds ih =>
        rw [List.map_cons, List.nodup_cons] at hnodup
        rw [List.foldl_cons, ih hnodup.2]
        by_cases hname : d.typeName = name
        · have hnot : ∀ e ∈ ds, e.typeName ≠ name := fun e he heq =>
            hnodup.1 (List.mem_map.2 ⟨e, he, heq.trans hname.symm⟩)
          have hrest : ¬ ∃ e ∈ ds, e.typeName = name ∧ e.kind = kind :=
            fun ⟨e, he, heq, _⟩ => hnot e he heq
          rw [← hname, kind?_insert_self, hname]
          simpa [hrest, hname] using fun _ => hnot
        · rw [kind?_insert_of_ne _ _ (Ne.symm hname)]
          simp [hname]
  refine (key empty).trans (or_iff_left fun h => ?_)
  cases h.2

/-- So a name is known exactly when a definition has it. -/
theorem contains_ofDefinitions {ds : List Definition} (hnodup : (ds.map (·.typeName)).Nodup)
    {name : String} : (ofDefinitions ds).contains name = true ↔ ∃ d ∈ ds, d.typeName = name := by
  unfold contains
  rw [Option.isSome_iff_exists]
  constructor
  · rintro ⟨kind, h⟩
    obtain ⟨d, hd, hname, -⟩ := (kind?_ofDefinitions hnodup).1 h
    exact ⟨d, hd, hname⟩
  · rintro ⟨d, hd, hname⟩
    exact ⟨d.kind, (kind?_ofDefinitions hnodup).2 ⟨d, hd, hname, rfl⟩⟩

end KnownTypes

/-! ## Documents of a definition -/

namespace Emitter

variable (e : Emitter) (d : Definition)

/-- The documents of a definition, whether its references are known or not. -/
def documentsOf : List Document := e.typeDocument d :: e.variantDocuments d

/-- The documents of variants are those of the variants of a record. -/
theorem mem_variantDocuments {document : Document} :
    document ∈ e.variantDocuments d
      ↔ ∃ r v, d.body = .record r ∧ v ∈ r.variantList ∧ document = e.variantDocument d r v := by
  unfold variantDocuments
  split
  · next r hr =>
      rw [List.mem_map]
      constructor
      · rintro ⟨v, hv, rfl⟩
        exact ⟨r, v, hr, hv, rfl⟩
      · rintro ⟨s, v, hs, hv, rfl⟩
        rw [hr] at hs
        cases hs
        exact ⟨v, hv, rfl⟩
  · next hnot =>
      refine iff_of_false List.not_mem_nil ?_
      rintro ⟨r, v, hr, -⟩
      exact hnot r hr

/-- A document is at the address that its name gives. -/
theorem uri_of_mem_documentsOf {document : Document} (h : document ∈ e.documentsOf d) :
    document.uri = e.uri document.typeName := by
  rcases List.mem_cons.1 h with rfl | h
  · rfl
  · obtain ⟨r, v, -, -, rfl⟩ := (e.mem_variantDocuments d).1 h
    rfl

/-- Every document begins with the members of a header. -/
theorem exists_header_of_mem_documentsOf {document : Document}
    (h : document ∈ e.documentsOf d) :
    ∃ header rest, document.schema
      = .object (e.headerMembers document.typeName header ++ rest) := by
  rcases List.mem_cons.1 h with rfl | h
  · refine ⟨d.header, ?_⟩
    unfold typeDocument bodyMembers
    dsimp only
    cases d.body with
    | string b =>
        exact ⟨_, by dsimp only; rw [List.append_assoc, List.append_assoc, List.append_assoc]⟩
    | _ => exact ⟨_, rfl⟩
  · obtain ⟨r, v, -, -, rfl⟩ := (e.mem_variantDocuments d).1 h
    exact ⟨_, _, rfl⟩

/-- What is not emitted is reported by the references that are not resolved. -/
theorem emit_eq_error {known : KnownTypes} (h : e.unresolvedReferences known d ≠ []) :
    e.emit known d = .error (e.unresolvedReferences known d) := by
  unfold emit
  split
  · next hnil => exact absurd hnil h
  · rfl

/-- A definition is emitted as its documents when there are none. -/
theorem emit_toOption (known : KnownTypes) :
    (e.emit known d).toOption = if (e.unresolvedReferences known d).isEmpty then
      some ⟨e.typeDocument d, e.variantDocuments d⟩ else none := by
  unfold emit
  cases e.unresolvedReferences known d with
  | nil => rfl
  | cons v vs => rfl

/-- Addresses tell names apart. -/
theorem uri_injective {a b : String} (h : e.uri a = e.uri b) : a = b := by
  unfold uri at h
  have hlist := congrArg String.toList h
  simp only [String.toList_append] at hlist
  exact String.toList_inj.1 (List.append_cancel_left hlist)

end Emitter

/-! ## The documents of a batch -/

section

variable (emitter : Emitter) (ds : List Definition)

/-- Whether all references of a definition are known among some definitions. -/
def isResolved (d : Definition) : Bool :=
  (emitter.unresolvedReferences (KnownTypes.ofDefinitions ds) d).isEmpty

/-- The definitions among some whose references are all known. -/
def resolvedOf : List Definition := ds.filter (isResolved emitter ds)

/-- The emitted definitions are those that are resolved, in another order. -/
theorem emittedOf_perm :
    (emittedOf (emitAll emitter ds)).Perm
      ((resolvedOf emitter ds).map fun d =>
        (d.typeName, ⟨emitter.typeDocument d, emitter.variantDocuments d⟩)) := by
  refine (List.mergeSort_perm _ _).trans (List.Perm.of_eq ?_)
  unfold emitAll resolvedOf isResolved
  dsimp only
  generalize KnownTypes.ofDefinitions ds = known
  induction ds with
  | nil => rfl
  | cons d ds ih =>
      rw [List.map_cons, List.filterMap_cons, List.filter_cons, ih, Emitter.emit_toOption]
      split <;> simp_all

/-- They are some of the definitions. -/
theorem resolvedOf_sublist : (resolvedOf emitter ds).Sublist ds := List.filter_sublist

variable {emitter ds}

/-- A definition is resolved when none of its references is reported. -/
theorem mem_resolvedOf {d : Definition} :
    d ∈ resolvedOf emitter ds
      ↔ d ∈ ds ∧ emitter.unresolvedReferences (KnownTypes.ofDefinitions ds) d = [] := by
  unfold resolvedOf isResolved
  rw [List.mem_filter, List.isEmpty_iff]

/-- The names of the definitions that have documents differ. -/
theorem typeNames_resolvedOf (hnodup : (ds.map (·.typeName)).Nodup) :
    ((resolvedOf emitter ds).map (·.typeName)).Nodup :=
  hnodup.sublist ((resolvedOf_sublist emitter ds).map _)

/-- No name is emitted twice. -/
theorem emitted_fst_nodup (hnodup : (ds.map (·.typeName)).Nodup) :
    ((emittedOf (emitAll emitter ds)).map Prod.fst).Nodup := by
  rw [((emittedOf_perm emitter ds).map Prod.fst).nodup_iff, List.map_map]
  exact typeNames_resolvedOf hnodup

/-- What was written for a definition is read at its name, and nothing where a reference is not
known. -/
theorem lookup_emittedOf (hnodup : (ds.map (·.typeName)).Nodup) {d : Definition} (hd : d ∈ ds) :
    (emittedOf (emitAll emitter ds)).lookup d.typeName = if isResolved emitter ds d then
      some ⟨emitter.typeDocument d, emitter.variantDocuments d⟩ else none := by
  split
  · next hresolved =>
      have hmem : d ∈ resolvedOf emitter ds := List.mem_filter.2 ⟨hd, hresolved⟩
      exact Table.lookup_of_mem (emitted_fst_nodup hnodup)
        ((emittedOf_perm emitter ds).mem_iff.2 (List.mem_map.2 ⟨d, hmem, rfl⟩))
  · next hresolved =>
      refine Table.lookup_eq_none_iff_forall.2 fun hmem => hresolved ?_
      obtain ⟨entry, hentry, hname⟩ := List.mem_map.1 hmem
      obtain ⟨t, ht, rfl⟩ := List.mem_map.1 ((emittedOf_perm emitter ds).mem_iff.1 hentry)
      obtain ⟨htmem, htresolved⟩ := List.mem_filter.1 ht
      rwa [← List.inj_on_of_nodup_map hnodup htmem hd hname]

/-- The documents of a batch, in some order. -/
theorem documents_perm :
    ((emittedOf (emitAll emitter ds)).flatMap (·.2.documents)).Perm
      ((resolvedOf emitter ds).flatMap emitter.documentsOf) := by
  refine ((emittedOf_perm emitter ds).flatMap_right _).trans (List.Perm.of_eq ?_)
  rw [List.flatMap_map]
  rfl

end

/-! ## The engine -/

namespace Engine

/-- The engine that holds some documents. -/
def ofDocuments (formats : List Format) (checksFormats : Bool) (documents : List Document) :
    Engine :=
  documents.foldl add (empty formats checksFormats)

variable {formats : List Format} {checksFormats : Bool} {documents : List Document}

/-- The tables of an engine are filled by entering each document by its address and its name. -/
theorem ofDocuments_eq : ofDocuments formats checksFormats documents
    = ⟨documents.foldl (fun t d => Table.insert d.uri d.schema t) [],
      documents.foldl (fun t d => Table.insert d.typeName d.uri t) [], formats, checksFormats⟩ := by
  have key (e : Engine) : documents.foldl add e
      = ⟨documents.foldl (fun t d => Table.insert d.uri d.schema t) e.documents,
        documents.foldl (fun t d => Table.insert d.typeName d.uri t) e.addresses, e.formats,
        e.checksFormats⟩ := by
    induction documents generalizing e with
    | nil => rfl
    | cons d documents ih =>
        rw [List.foldl_cons, ih]
        rfl
  exact key _

end Engine

/-- A validator that was built is entered under its name. -/
theorem validatorsOf_concat_ok (attempts : List (String × Except BuildError TypeValidator))
    (name : String) (t : TypeValidator) :
    validatorsOf (attempts ++ [(name, .ok t)]) = Table.insert name t (validatorsOf attempts) := by
  unfold validatorsOf
  rw [List.foldl_append]
  rfl

/-- One that could not be built enters nothing. -/
theorem validatorsOf_concat_error (attempts : List (String × Except BuildError TypeValidator))
    (name : String) (fault : BuildError) :
    validatorsOf (attempts ++ [(name, .error fault)]) = validatorsOf attempts := by
  unfold validatorsOf
  rw [List.foldl_append]
  rfl

/-- A name that some document has is read in the table of validators as what can be built for it. A
later document of the name gives the same, since the engine is asked by the name. -/
theorem lookup_validatorsOf {e : Engine} {documents : List Document} {name : String}
    {t : TypeValidator} :
    (validatorsOf (compileAll e documents)).lookup name = some t
      ↔ (∃ d ∈ documents, d.typeName = name) ∧ e.compile name = .ok t := by
  induction documents using List.reverseRecOn with
  | nil => exact iff_of_false nofun (by simp)
  | append_singleton documents d ih =>
      have hmap : compileAll e (documents ++ [d])
          = compileAll e documents ++ [(d.typeName, e.compile d.typeName)] := List.map_append ..
      have hexists : (∃ x ∈ documents ++ [d], x.typeName = name)
          ↔ (∃ x ∈ documents, x.typeName = name) ∨ d.typeName = name := by
        simp only [List.mem_append, List.mem_singleton, or_and_right, exists_or, exists_eq_left]
      rw [hmap, hexists]
      -- The last document has the name, and decides what is found, or another name, and changes
      -- nothing.
      by_cases hname : d.typeName = name
      · subst hname
        cases hcompile : e.compile d.typeName with
        | ok v =>
            rw [validatorsOf_concat_ok, Table.lookup_insert_self]
            simp
        | error fault =>
            rw [validatorsOf_concat_error, ih, hcompile]
            simp
      · rw [or_iff_left hname, ← ih]
        cases e.compile d.typeName with
        | ok v => rw [validatorsOf_concat_ok, Table.lookup_insert_of_ne _ _ (Ne.symm hname)]
        | error fault => rw [validatorsOf_concat_error]

/-! ## Compiled batches -/

namespace Catalog

variable (settings : Settings) (formats : List Format) (store : Store)

/-- The definitions of a batch are those that were read. -/
theorem definitions_ofStore : (ofStore settings formats store).definitions
    = (readAll settings.documentation [] 0 store.entries).1 := rfl

/-- What is emitted is made of the definitions. -/
theorem emitted_ofStore : (ofStore settings formats store).emitted
    = emittedOf (emitAll (.ofDomain settings.domain)
        (ofStore settings formats store).definitions) := rfl

/-- The engine that the validators of a batch are built with. -/
def engineOf : Engine :=
  .ofDocuments formats settings.validateFormats (ofStore settings formats store).documents

/-- The validators are built over the documents. -/
theorem validators_ofStore : (ofStore settings formats store).validators
    = validatorsOf (compileAll (engineOf settings formats store)
        (ofStore settings formats store).documents) := rfl

variable {settings formats store}

/-- The names of the definitions differ. -/
theorem typeNames_nodup : ((ofStore settings formats store).definitions.map (·.typeName)).Nodup :=
  typeNames_readAll.1

/-- The definitions are well formed. -/
theorem wellFormed_of_mem {d : Definition} (h : d ∈ (ofStore settings formats store).definitions) :
    d.WellFormed :=
  wellFormed_of_mem_readAll h

/-- The definitions of a batch that have documents. -/
def resolved (settings : Settings) (formats : List Format) (store : Store) : List Definition :=
  resolvedOf (.ofDomain settings.domain) (ofStore settings formats store).definitions

/-- The documents are those of the resolved definitions, in another order. -/
theorem documents_perm_resolved : (ofStore settings formats store).documents.Perm
    ((resolved settings formats store).flatMap (Emitter.ofDomain settings.domain).documentsOf) :=
  documents_perm

/-- So a document is one of a resolved definition. -/
theorem mem_documents {document : Document} :
    document ∈ (ofStore settings formats store).documents
      ↔ ∃ d ∈ resolved settings formats store,
        document ∈ (Emitter.ofDomain settings.domain).documentsOf d := by
  rw [documents_perm_resolved.mem_iff, List.mem_flatMap]

/-- Every document of a batch is at the address that its name gives. -/
theorem uri_of_mem_documents {document : Document}
    (h : document ∈ (ofStore settings formats store).documents) :
    document.uri = (Emitter.ofDomain settings.domain).uri document.typeName := by
  obtain ⟨d, -, hd⟩ := mem_documents.1 h
  exact Emitter.uri_of_mem_documentsOf _ d hd

/-- A name has the validator that the engine builds for it, when a document has the name. -/
theorem lookup_validators {name : String} {t : TypeValidator} :
    (ofStore settings formats store).validators.lookup name = some t
      ↔ (∃ d ∈ (ofStore settings formats store).documents, d.typeName = name)
        ∧ (engineOf settings formats store).compile name = .ok t := by
  rw [validators_ofStore]
  exact lookup_validatorsOf

end Catalog

end TypeCatalog
