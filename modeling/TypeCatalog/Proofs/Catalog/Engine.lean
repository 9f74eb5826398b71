import TypeCatalog.Proofs.Catalog.Documents

/-!
# The tables of an engine

An engine keeps two tables, the addresses by the names of the types and the documents by their
addresses. A document that is added goes into both, and may take the place of others there: one of
its name that is at another address, and one of another name that is at its address.

The tables stay in step all the same. `Engine.Holds` says what an engine says when some documents
were added to it, in terms of the documents alone: the document of a name is the last one that was
added at the address of the last one of the name. `Engine.holds_ofDocuments` says that it holds
whatever is added.

Adding a document is `Engine.add`, which enters the address into `addresses` and the schema into
`documents`. `lastOf` and `lastAt` give the document that a table keeps, so each clause of `Holds`
is a lookup in a folded table. The second error of `Engine.compile`, a name without a document at
its address, never occurs.
-/

set_option autoImplicit false

namespace TypeCatalog

/-- The last document of a name among some that were added. -/
def Document.lastOf (documents : List Document) (typeName : String) : Option Document :=
  documents.reverse.find? (·.typeName = typeName)

/-- The last document at an address among some that were added. -/
def Document.lastAt (documents : List Document) (uri : String) : Option Document :=
  documents.reverse.find? (·.uri = uri)

/-- A name has a last document exactly when some document has it. -/
theorem Document.isSome_lastOf {documents : List Document} {typeName : String} :
    (lastOf documents typeName).isSome = true ↔ ∃ d ∈ documents, d.typeName = typeName := by
  simp [lastOf]

/-- A document that was added is at its address, unless a later one is. -/
theorem Document.exists_lastAt {documents : List Document} {d : Document} (h : d ∈ documents) :
    ∃ found, lastAt documents d.uri = some found := by
  refine Option.isSome_iff_exists.1 ?_
  rw [lastAt, List.find?_isSome]
  exact ⟨d, List.mem_reverse.2 h, decide_eq_true rfl⟩

namespace Engine

open Document

/-- What an engine says when some documents were added to it, one after the other. -/
structure Holds (e : Engine) (documents : List Document) : Prop where
  contains : ∀ typeName, e.contains typeName = true ↔ ∃ d ∈ documents, d.typeName = typeName
  /-- The document of a name is the last one at the address of the last one of the name. -/
  document : ∀ typeName, e.document? typeName
    = (lastOf documents typeName).bind fun d => (lastAt documents d.uri).map (·.schema)
  /-- There is a document at every address of a name. -/
  inStep : ∀ typeName uri, e.addresses.lookup typeName = some uri →
    ∃ schema, e.documents.lookup uri = some schema
  size : e.size = (documents.map (·.uri)).toFinset.card
  /-- The names of no document, and no others, are reported as having no document registered. -/
  unregistered : ∀ typeName, e.compile typeName = .error .unregistered
    ↔ ∀ d ∈ documents, d.typeName ≠ typeName
  /-- No name is reported as leading to an address where nothing is. -/
  somewhere : ∀ typeName uri, e.compile typeName ≠ .error (.nothingAt uri)

variable {formats : List Format} {checksFormats : Bool} {documents : List Document}

/-- The table of addresses has the address of the last document of a name. -/
theorem lookup_addresses (typeName : String) :
    (ofDocuments formats checksFormats documents).addresses.lookup typeName
      = (lastOf documents typeName).map (·.uri) := by
  rw [ofDocuments_eq, Table.lookup_foldl_insert_eq documents [] typeName]
  exact Option.or_none

/-- The table of documents has the schema of the last document at an address. -/
theorem lookup_documents (uri : String) :
    (ofDocuments formats checksFormats documents).documents.lookup uri
      = (lastAt documents uri).map (·.schema) := by
  rw [ofDocuments_eq, Table.lookup_foldl_insert_eq documents [] uri]
  exact Option.or_none

/-- A name leads to an address where a document is. -/
theorem exists_lookup_documents {typeName uri : String}
    (h : (ofDocuments formats checksFormats documents).addresses.lookup typeName = some uri) :
    ∃ schema, (ofDocuments formats checksFormats documents).documents.lookup uri = some schema := by
  rw [lookup_addresses] at h
  obtain ⟨d, hd, rfl⟩ := Option.map_eq_some_iff.1 h
  obtain ⟨found, hfound⟩ := exists_lastAt (List.mem_reverse.1 (List.mem_of_find?_eq_some hd))
  exact ⟨found.schema, by rw [lookup_documents, hfound]; rfl⟩

/-- The errors of a build are faults of its schema. -/
theorem exists_fault_of_build_eq_error {e : Engine} {schema : Json} {fault : BuildError}
    (h : e.build schema = .error fault) : ∃ f, fault = .schema f := by
  unfold build at h
  cases hbuild : Validator.build e.documents e.formats e.checksFormats schema with
  | ok v =>
      rw [hbuild] at h
      cases h
  | error f =>
      rw [hbuild] at h
      cases h
      exact ⟨f, rfl⟩

/-- What is said of a name that leads to a document is said of the schemas that are built for it. -/
theorem exists_fault_of_compile_eq_error {e : Engine} {typeName uri : String} {schema : Json}
    {fault : BuildError} (huri : e.addresses.lookup typeName = some uri)
    (hschema : e.documents.lookup uri = some schema) (h : e.compile typeName = .error fault) :
    ∃ f, fault = .schema f := by
  simp only [compile, huri, hschema] at h
  rcases Result.bind_eq_error.1 h with hsingle | ⟨single, -, h⟩
  · exact exists_fault_of_build_eq_error hsingle
  · rcases Result.bind_eq_error.1 h with hlist | ⟨list, -, h⟩
    · exact exists_fault_of_build_eq_error hlist
    · cases h

/-- An engine contains the names of its documents. -/
theorem contains_ofDocuments (typeName : String) :
    (ofDocuments formats checksFormats documents).contains typeName = true
      ↔ ∃ d ∈ documents, d.typeName = typeName := by
  rw [contains, lookup_addresses, Option.isSome_map, isSome_lastOf]

/-- The tables of an engine stay in step, whatever is added to it and however often. -/
theorem holds_ofDocuments (formats : List Format) (checksFormats : Bool)
    (documents : List Document) :
    (ofDocuments formats checksFormats documents).Holds documents := by
  -- A name that was added leads to a document, so all that can fail is a build of its schemas.
  have hcompile {typeName : String} {fault : BuildError}
      (hname : ∃ d ∈ documents, d.typeName = typeName)
      (h : (ofDocuments formats checksFormats documents).compile typeName = .error fault) :
      ∃ f, fault = .schema f := by
    obtain ⟨d, hd⟩ := Option.isSome_iff_exists.1 (isSome_lastOf.2 hname)
    have huri : (ofDocuments formats checksFormats documents).addresses.lookup typeName
        = some d.uri := by rw [lookup_addresses, hd]; rfl
    obtain ⟨schema, hschema⟩ := exists_lookup_documents huri
    exact exists_fault_of_compile_eq_error huri hschema h
  have hmissing {typeName : String} (hname : ¬ ∃ d ∈ documents, d.typeName = typeName) :
      (ofDocuments formats checksFormats documents).compile typeName = .error .unregistered := by
    have hlookup : (ofDocuments formats checksFormats documents).addresses.lookup typeName
        = none := by
      rw [← Option.not_isSome_iff_eq_none]
      exact fun h => hname (contains_ofDocuments _ |>.1 h)
    rw [compile, hlookup]
  refine ⟨contains_ofDocuments, fun typeName => ?_, fun _ _ => exists_lookup_documents, ?_,
    fun typeName => ⟨fun h d hd hname => ?_, fun h => ?_⟩, fun typeName uri h => ?_⟩
  · rw [document?, lookup_addresses, Option.bind_map]
    exact congrArg _ (funext fun d => lookup_documents d.uri)
  · rw [size, ofDocuments_eq]
    exact Table.length_foldl_insert documents
  · obtain ⟨f, hf⟩ := hcompile ⟨d, hd, hname⟩ h
    cases hf
  · exact hmissing fun ⟨d, hd, hname⟩ => h d hd hname
  · by_cases hname : ∃ d ∈ documents, d.typeName = typeName
    · obtain ⟨f, hf⟩ := hcompile hname h
      cases hf
    · rw [hmissing hname] at h
      cases h

end Engine

end TypeCatalog
