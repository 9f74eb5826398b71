import TypeCatalog.Proofs.Validation.MetaSchema
import TypeCatalog.Proofs.Validation.Readable

/-!
# What validators accept

Compiling a batch keeps the meaning of its definitions. `Catalog.accepts` reads a definition, or a
variant of a record, directly: what it asks of a value is looked up by name among the demands of the
definitions that have documents, and so is what the types of its properties ask. The validator of
the name says the same of every value.

Between the two stand the documents, the engine that holds them by their addresses, the registry
that a validator collects from these, and the schemas that are read there. Addresses are compared in
their normal form, and what the schema language brings is there before the documents of the batch
are collected. So a type whose address is one of the schema language's own is not found under it,
which is why no property may refer to such a type.

The validator is `Catalog.validator?`, built by `Engine.compile` over `Engine.documents`. On its way
are `Registry.collect`, which begins with the documents of the schema language
(`MetaSchema.registry`), `Reader.follow`, which reads what references lead to, and
`Validator.errors`. `MeaningHypotheses` holds what is asked of the batch, and
`Catalog.validate?_eq_accepts` is the equality.
-/

set_option autoImplicit false

namespace TypeCatalog

open Result

/-- A name has validators when the documents of the engine have them. -/
theorem Engine.compile_eq_ok {e : Engine} {name uri : String} {schema : Json}
    {single list : Validator} (huri : e.addresses.lookup name = some uri)
    (hschema : e.documents.lookup uri = some schema) (hsingle : e.build schema = .ok single)
    (hlist : e.build (listSchema uri) = .ok list) : e.compile name = .ok ⟨name, single, list⟩ := by
  rw [compile, huri]
  dsimp only
  rw [hschema]
  dsimp only
  rw [hsingle, hlist]
  rfl

/-- The engine builds what `Validator.build` builds over its documents. -/
theorem Engine.build_eq_ok {e : Engine} {schema : Json} {v : Validator} : e.build schema = .ok v
    ↔ Validator.build e.documents e.formats e.checksFormats schema = .ok v := by
  unfold build
  cases Validator.build e.documents e.formats e.checksFormats schema with
  | error fault => exact iff_of_false nofun nofun
  | ok built => simp [Except.mapError]

namespace Catalog

/-! ## Definitions read directly -/

section

variable (c : Catalog)

/-- What the definitions that have documents, and their variants, ask of values, by their names. -/
def demands : List (String × Demand) :=
  (c.definitions.filter fun d => (c.emitted.lookup d.typeName).isSome).flatMap (·.demands)

/-- What a type or a variant asks of a value. -/
def demand? (typeName : String) : Option Demand := c.demands.lookup typeName

/-- Whether a value is one that a type or a variant asks for. -/
def accepts (system name : String) (v : Json) : Bool :=
  (c.demand? (Name.qualify system name)).any (·.accepts c.demand? v)

end

variable {settings : Settings} {formats : List Format} {store : Store}

/-- The demands of a batch are those of its resolved definitions. -/
theorem demands_ofStore : (ofStore settings formats store).demands
    = (resolved settings formats store).flatMap (·.demands) := by
  unfold demands resolved resolvedOf
  congr 1
  refine List.filter_congr fun d hd => ?_
  rw [emitted_ofStore, lookup_emittedOf typeNames_nodup hd]
  cases isResolved (.ofDomain settings.domain) (ofStore settings formats store).definitions d with
  | true => rfl
  | false => rfl

/-- The definitions of a batch have names of types. -/
theorem isTypeName_of_mem {d : Definition} (h : d ∈ (ofStore settings formats store).definitions) :
    Name.IsTypeName d.typeName :=
  ⟨d.header.system, d.header.name, (wellFormed_of_mem h).system, (wellFormed_of_mem h).name, rfl⟩

/-- The assumptions on a batch below a domain of the web:

- `kinds`: no definition is given as a schema;
- `distinct`: documents have different names;
- `apart`: no property refers to a type whose address is one of those of the schema language. -/
structure MeaningHypotheses (settings : Settings) (formats : List Format) (store : Store) :
    Prop where
  domain : IsWebDomain settings.domain
  kinds : ∀ d ∈ (ofStore settings formats store).definitions, d.kind ≠ .object
  distinct : ((ofStore settings formats store).documents.map (·.typeName)).Nodup
  apart : ∀ d ∈ (ofStore settings formats store).definitions, ∀ entry ∈ d.demands,
    ∀ t ∈ entry.2.targets, (Emitter.ofDomain settings.domain).IsApart t

namespace MeaningHypotheses

variable (h : MeaningHypotheses settings formats store)

include h

/-- The demands of a batch have different names, which are those of the documents. -/
theorem demands_nodup : ((ofStore settings formats store).demands.map Prod.fst).Nodup := by
  have hnames : (ofStore settings formats store).demands.map Prod.fst
      = ((resolved settings formats store).flatMap
        (Emitter.ofDomain settings.domain).documentsOf).map (·.typeName) := by
    rw [demands_ofStore, List.map_flatMap, List.map_flatMap]
    refine List.flatMap_congr fun d hd => ?_
    rw [Emitter.typeNames_documentsOf,
      Definition.map_fst_demands (h.kinds d (mem_resolvedOf.1 hd).1)]
  rw [hnames, ← (documents_perm_resolved.map (·.typeName)).nodup_iff]
  exact h.distinct

/-- A demand of a resolved definition is found by its name. -/
theorem demand?_of_mem {d : Definition} (hd : d ∈ resolved settings formats store)
    {entry : String × Demand} (hentry : entry ∈ d.demands) :
    (ofStore settings formats store).demand? entry.1 = some entry.2 := by
  refine Table.lookup_of_mem h.demands_nodup ?_
  rw [demands_ofStore]
  exact List.mem_flatMap.2 ⟨d, hd, hentry⟩

omit h in
/-- What a name asks for is a demand of a definition that has documents. -/
theorem exists_of_demand?_eq_some {t : String} {demand : Demand}
    (hdemand : (ofStore settings formats store).demand? t = some demand) :
    ∃ d ∈ resolved settings formats store, (t, demand) ∈ d.demands := by
  have hmem := Table.mem_of_lookup hdemand
  rw [demands_ofStore] at hmem
  exact List.mem_flatMap.1 hmem

omit h in
/-- The types that a definition with documents refers to are defined in the batch. -/
theorem isTypeName_of_mem_targets {d : Definition} (hd : d ∈ resolved settings formats store)
    {entry : String × Demand} (hentry : entry ∈ d.demands) {t : String}
    (ht : t ∈ entry.2.targets) : Name.IsTypeName t := by
  have hresolves := (Emitter.unresolvedReferences_eq_nil_iff typeNames_nodup).1
    (mem_resolvedOf.1 hd).2
  obtain ⟨target, htarget, rfl⟩ := hresolves.demand hentry ht
  exact isTypeName_of_mem htarget

/-- Each document of the batch writes down what its name asks for. -/
theorem describes {document : Document}
    (hdocument : document ∈ (ofStore settings formats store).documents) :
    (Emitter.ofDomain settings.domain).Describes (ofStore settings formats store).demand?
      document.typeName document.schema := by
  obtain ⟨d, hd, hmem⟩ := mem_documents.1 hdocument
  obtain ⟨hdefinition, -⟩ := mem_resolvedOf.1 hd
  obtain ⟨demand, header, hentry, hschema⟩ :=
    (Emitter.ofDomain settings.domain).exists_demand_of_mem_documentsOf (h.kinds d hdefinition) hmem
  obtain ⟨system, name, hname, hs, hn⟩ := exists_of_mem_documents hdocument
  exact ⟨⟨system, name, hs, hn, hname⟩, header, demand, h.demand?_of_mem hd hentry,
    (wellFormed_of_mem hdefinition).demand hentry,
    fun t ht => isTypeName_of_mem_targets hd hentry ht, hschema⟩

/-- What the engine holds at an address is the document of a type. -/
theorem describes_of_lookup {address : String} {schema : Json}
    (hlookup : (engineOf settings formats store).documents.lookup address = some schema) :
    ∃ t, address = (Emitter.ofDomain settings.domain).uri t
      ∧ (Emitter.ofDomain settings.domain).Describes (ofStore settings formats store).demand?
        t schema := by
  unfold engineOf at hlookup
  rw [Engine.ofDocuments_eq] at hlookup
  rcases Table.mem_of_lookup_foldl_insert hlookup with ⟨document, hmem, rfl, rfl⟩ | hnil
  · exact ⟨document.typeName, uri_of_mem_documents hmem, h.describes hmem⟩
  · cases hnil

/-- The validator that is built of a document is a reading of what its name asks for, and of what
the types ask for that are referred to. -/
theorem reads_of_build {document : Document}
    (hdocument : document ∈ (ofStore settings formats store).documents) {v : Validator}
    (hbuild : (engineOf settings formats store).build document.schema = .ok v) :
    ∃ (r : Reader) (demand : Demand),
      (ofStore settings formats store).demand? document.typeName = some demand
        ∧ demand.WellFormed
        ∧ r.Reads (.ofDomain settings.domain) (v.definitions.map Prod.fst) demand v.schema
        ∧ r.Settled (.ofDomain settings.domain) (ofStore settings formats store).demand?
          (v.definitions.map Prod.fst) v.definitions := by
  obtain ⟨registry, hregistry, hvalidator⟩ := bind_eq_ok.1 (Engine.build_eq_ok.1 hbuild)
  obtain ⟨_, -, hvalidator⟩ := bind_eq_ok.1 hvalidator
  have hdescribes := h.describes hdocument
  have hholds := Survey.holds_collect h.domain (fun _ _ => h.describes_of_lookup) hdescribes
    hregistry
  have hapart : ∀ t demand, (ofStore settings formats store).demand? t = some demand →
      ∀ u ∈ demand.targets, (Emitter.ofDomain settings.domain).IsApart u := by
    intro t demand hdemand u hu
    obtain ⟨d, hd, hentry⟩ := exists_of_demand?_eq_some hdemand
    exact h.apart d (mem_resolvedOf.1 hd).1 _ hentry u hu
  exact ⟨_, Reader.reads_of_validator h.domain hholds hapart hdescribes hvalidator⟩

/-- It accepts the values that its name asks for. -/
theorem errors_eq_nil_iff_of_build {document : Document}
    (hdocument : document ∈ (ofStore settings formats store).documents) {v : Validator}
    (hbuild : (engineOf settings formats store).build document.schema = .ok v) :
    ∃ demand, (ofStore settings formats store).demand? document.typeName = some demand ∧ ∀ x,
      (v.errors x = [] ↔ demand.accepts (ofStore settings formats store).demand? x = true) := by
  obtain ⟨r, demand, hdemand, hwellFormed, hreads, hsettled⟩ := h.reads_of_build hdocument hbuild
  exact ⟨demand, hdemand, v.errors_eq_nil_iff hwellFormed hreads hsettled⟩

/-- A document has validators when the types that it leads to have documents, its patterns can be
searched for, and it satisfies the schema of schemas as does the schema of lists over it. -/
theorem exists_compile {T : String → Prop}
    (hclosed : (Emitter.ofDomain settings.domain).IsClosed
      (engineOf settings formats store).documents
      (ofStore settings formats store).demand? T)
    (hsearch : ∀ t, T t → ∀ demand, (ofStore settings formats store).demand? t = some demand →
      demand.isSearchable = true) {document : Document}
    (hdocument : document ∈ (ofStore settings formats store).documents) (ht : T document.typeName)
    (hcheck : MetaSchema.check document.schema = .ok ())
    (hcheckList : MetaSchema.check (Engine.listSchema document.uri) = .ok ()) :
    ∃ t, (engineOf settings formats store).compile document.typeName = .ok t := by
  obtain ⟨single, hsingle⟩ := exists_build h.domain hclosed hsearch
    (engineOf settings formats store).formats (engineOf settings formats store).checksFormats ht
    (h.describes hdocument) hcheck
  rw [uri_of_mem_documents hdocument] at hcheckList
  obtain ⟨list, hlist⟩ := exists_build_list h.domain hclosed hsearch
    (engineOf settings formats store).formats (engineOf settings formats store).checksFormats ht
    hcheckList
  obtain ⟨haddress, hschema⟩ := lookup_engineOf h.distinct hdocument
  rw [← uri_of_mem_documents hdocument] at hlist
  exact ⟨_, Engine.compile_eq_ok haddress hschema (Engine.build_eq_ok.2 hsingle)
    (Engine.build_eq_ok.2 hlist)⟩

end MeaningHypotheses

/-! ## What is read of documents -/

/-- What is read of a document, whether it satisfies the schema of schemas or not. -/
def read? (documents : List (String × Json)) (schema : Json) : Option Validator :=
  (Registry.collect MetaSchema.registry documents ⟨.draft7, schema⟩).toOption.bind
    fun r => (Reader.validator ⟨r, [], true⟩ ⟨.draft7, schema⟩).toOption

/-- What can be read is built when it is a schema. -/
theorem build_of_read? {documents : List (String × Json)} {schema : Json} {v : Validator}
    (hcheck : MetaSchema.check schema = .ok ()) (h : read? documents schema = some v) :
    Validator.build documents [] true schema = .ok v := by
  obtain ⟨r, hr, hvalidator⟩ := Option.bind_eq_some_iff.1 h
  rw [toOption_eq_some] at hr hvalidator
  exact bind_eq_ok.2 ⟨r, hr, bind_eq_ok.2 ⟨(), hcheck, hvalidator⟩⟩

/-- And what was built can be read. -/
theorem read?_of_build {documents : List (String × Json)} {schema : Json} {v : Validator}
    (h : Validator.build documents [] true schema = .ok v) : read? documents schema = some v := by
  obtain ⟨r, hr, h⟩ := bind_eq_ok.1 h
  obtain ⟨_, -, hvalidator⟩ := bind_eq_ok.1 h
  exact Option.bind_eq_some_iff.2 ⟨r, toOption_eq_some.2 hr, toOption_eq_some.2 hvalidator⟩

/-- The validators of a document that satisfies the schema of schemas are what is read of it, and of
the schema of lists over it. -/
theorem lookup_validators_of_read? {settings : Settings} {store : Store}
    (hchecks : settings.validateFormats = true)
    (hnodup : ((ofStore settings [] store).documents.map (·.typeName)).Nodup) {document : Document}
    (hdocument : document ∈ (ofStore settings [] store).documents)
    (hschema : MetaSchema.IsSchema document.schema)
    (huri : Format.isReference false false document.uri = true) {single list : Validator}
    (hsingle : read? (engineOf settings [] store).documents document.schema = some single)
    (hlist : read? (engineOf settings [] store).documents (Engine.listSchema document.uri)
      = some list) :
    (ofStore settings [] store).validators.lookup document.typeName
      = some ⟨document.typeName, single, list⟩ := by
  obtain ⟨haddress, hlookup⟩ := lookup_engineOf hnodup hdocument
  have hengine : (engineOf settings [] store).formats = []
      ∧ (engineOf settings [] store).checksFormats = true := by
    unfold engineOf
    rw [Engine.ofDocuments_eq]
    exact ⟨rfl, hchecks⟩
  have hbuild {schema : Json} {v : Validator} (hschema : MetaSchema.IsSchema schema)
      (hread : read? (engineOf settings [] store).documents schema = some v) :
      (engineOf settings [] store).build schema = .ok v := by
    rw [Engine.build, hengine.1, hengine.2,
      build_of_read? (MetaSchema.check_of_isSchema hschema) hread]
    rfl
  exact lookup_validators.2 ⟨⟨document, hdocument, rfl⟩, Engine.compile_eq_ok haddress hlookup
    (hbuild hschema hsingle) (hbuild (MetaSchema.isSchema_listSchema huri) hlist)⟩

/-! ## Acceptance -/

/-- A validator accepts a value exactly when the definition, read directly, does. -/
theorem validate?_eq_accepts (h : MeaningHypotheses settings formats store) (system name : String)
    (v : Json) :
    ((ofStore settings formats store).validate? system name v).map (·.isValid)
      = ((ofStore settings formats store).validator? system name).map
        fun _ => (ofStore settings formats store).accepts system name v := by
  unfold validate? validator?
  rw [Option.map_map]
  cases ht : (ofStore settings formats store).validators.lookup (Name.qualify system name) with
  | none => rfl
  | some t =>
      obtain ⟨⟨document, hdocument, hname⟩, hcompile⟩ := lookup_validators.1 ht
      obtain ⟨huri, hschema⟩ := lookup_engineOf h.distinct hdocument
      rw [hname] at huri
      obtain ⟨demand, hdemand, hiff⟩ :=
        h.errors_eq_nil_iff_of_build hdocument (build_of_compile_eq_ok huri hschema hcompile).1
      unfold accepts
      rw [← hname, hdemand]
      show some (t.single.errors v).isEmpty = some (demand.accepts _ v)
      rw [Option.some.injEq, Bool.eq_iff_iff, List.isEmpty_iff, hiff]

/-! ### A record with a flag

The documents of `flagStore` are written out, so that the record is known to have a validator. -/

/-- The address of the document of the record in `flagStore`. -/
def userUri : String := "https://jsonotron.org/test/user"

/-- The address of the document of its flag. -/
def flagUri : String := "https://jsonotron.org/test/flag"

/-- The document of the record: one member, which is a flag. -/
def userSchema : Json := .object
  [("$schema", .string Emitter.draft), ("$id", .string userUri), ("title", .string "User"),
    ("type", .string "object"), ("additionalProperties", .bool false),
    ("properties", .object [("active", .object [("$ref", .string flagUri)])])]

/-- The documents of `flagStore`: those of the flag, of the record and of its variant. -/
def flagDocuments : List Document :=
  [⟨"test/flag", flagUri, .object
      [("$schema", .string Emitter.draft), ("$id", .string flagUri), ("title", .string "Flag"),
        ("type", .string "boolean")]⟩,
   ⟨"test/user", userUri, userSchema⟩,
   ⟨"test/userShort", userUri ++ "Short", .object
      [("$schema", .string Emitter.draft), ("$id", .string (userUri ++ "Short")),
        ("title", .string "User (Short)"), ("type", .string "object"),
        ("additionalProperties", .bool false), ("properties", .object [])]⟩]

/-- The documents of the batch of the flag and the record. -/
theorem documents_flagStore : (ofStore .standard [] flagStore).documents = flagDocuments := by
  unfold documents
  rw [emitted_ofStore, emittedOf, List.mergeSort_of_pairwise]
  · decide +kernel
  · decide +kernel

/-- The document of a record with one property satisfies the schema of schemas, whatever the
addresses of the record and of the type of the property are. -/
theorem isSchema_record {uri title name target : String}
    (huri : Format.isReference false false uri = true)
    (htarget : Format.isReference false false target = true) :
    MetaSchema.IsSchema (.object
      [("$schema", .string Emitter.draft), ("$id", .string uri), ("title", .string title),
        ("type", .string "object"), ("additionalProperties", .bool false),
        ("properties", .object [(name, .object [("$ref", .string target)])])]) := by
  refine .object ?_
  simp only [List.forall_mem_cons, List.not_mem_nil, false_implies, implies_true, and_true]
  exact ⟨MetaSchema.isMember_version, .address (by simp) huri, .text _ (by simp),
    .type (by decide), .schema (by simp) (.boolean false),
    .schemas (List.forall_mem_singleton.2 (MetaSchema.isSchema_reference htarget))⟩

/-- Their addresses are in form. -/
theorem isReference_flagDocuments :
    ∀ document ∈ flagDocuments, Format.isReference false false document.uri = true := by
  decide +kernel

/-- The document of the record is a schema. -/
theorem isSchema_userSchema : MetaSchema.IsSchema userSchema :=
  isSchema_record (isReference_flagDocuments _ (.tail _ (.head _)))
    (isReference_flagDocuments _ (.head _))

/-- The record refers to the flag, which refers to nothing; neither asks for a pattern. -/
theorem demands_flagStore : ∀ t ∈ ["test/user", "test/flag"],
    ((ofStore .standard [] flagStore).demand? t).all
      (fun demand => demand.isSearchable && demand.targets.all
        (["test/user", "test/flag"].contains ·))
      = true := by
  unfold demand?
  rw [demands_ofStore]
  decide +kernel

/-- The record has a validator, since the documents that it reaches are there. -/
theorem exists_validator?_user (h : MeaningHypotheses .standard [] flagStore) :
    ∃ t, (ofStore .standard [] flagStore).validator? "test" "user" = some t := by
  have hdemand {t : String} (ht : t ∈ ["test/user", "test/flag"]) {demand : Demand}
      (hdemand : (ofStore .standard [] flagStore).demand? t = some demand) :
      demand.isSearchable = true ∧ ∀ u ∈ demand.targets, u ∈ ["test/user", "test/flag"] := by
    have hall := demands_flagStore t ht
    rw [hdemand, Option.all_some, Bool.and_eq_true, List.all_eq_true] at hall
    exact ⟨hall.1, fun u hu => List.contains_iff_mem.1 (hall.2 u hu)⟩
  -- The two types refer to nothing but each other, and both have documents.
  have hclosed : (Emitter.ofDomain Settings.standard.domain).IsClosed
      (engineOf .standard [] flagStore).documents (ofStore .standard [] flagStore).demand?
      (· ∈ ["test/user", "test/flag"]) := by
    refine ⟨by decide +kernel, fun t ht => ?_, fun t ht demand hd u hu => (hdemand ht hd).2 u hu⟩
    obtain ⟨document, hdocument, rfl⟩ : ∃ document ∈ (ofStore .standard [] flagStore).documents,
        document.typeName = t := by
      rw [documents_flagStore]
      revert t
      decide
    obtain ⟨-, hschema⟩ := lookup_engineOf h.distinct hdocument
    rw [uri_of_mem_documents hdocument] at hschema
    exact ⟨document.schema, hschema, h.describes hdocument⟩
  have hdocument : ⟨"test/user", userUri, userSchema⟩
      ∈ (ofStore .standard [] flagStore).documents := by
    rw [documents_flagStore]
    exact .tail _ (.head _)
  have hsearch : ∀ t ∈ ["test/user", "test/flag"], ∀ demand,
      (ofStore .standard [] flagStore).demand? t = some demand → demand.isSearchable = true :=
    fun t ht demand hd => (hdemand ht hd).1
  obtain ⟨t, ht⟩ := h.exists_compile hclosed hsearch hdocument (.head _)
    (MetaSchema.check_of_isSchema isSchema_userSchema)
    (MetaSchema.check_of_isSchema (MetaSchema.isSchema_listSchema
      (isReference_flagDocuments _ (.tail _ (.head _)))))
  exact ⟨t, lookup_validators.2 ⟨⟨_, hdocument, rfl⟩, ht⟩⟩

/-- An object whose member is a flag is valid against the record of `flagStore`, and one whose
member is none is not. -/
theorem validate?_flagStore_eq_accepts :
    MeaningHypotheses .standard [] flagStore
      ∧ ((ofStore .standard [] flagStore).validate? "test" "user"
          (.object [("active", .bool true)])).map (·.isValid) = some true
      ∧ ((ofStore .standard [] flagStore).validate? "test" "user"
          (.object [("active", .null)])).map (·.isValid) = some false := by
  have h : MeaningHypotheses .standard [] flagStore := by
    refine ⟨⟨⟨"https".toList, "jsonotron.org".toList, by decide, by decide⟩, by decide, by decide⟩,
      ?_, ?_, ?_⟩
    · rw [definitions_ofStore]
      decide +kernel
    · rw [documents_flagStore]
      decide
    · rw [definitions_ofStore]
      decide +kernel
  obtain ⟨t, ht⟩ := exists_validator?_user h
  have haccepts : (ofStore .standard [] flagStore).accepts "test" "user"
        (.object [("active", .bool true)]) = true
      ∧ (ofStore .standard [] flagStore).accepts "test" "user"
        (.object [("active", .null)]) = false := by
    unfold accepts demand?
    rw [demands_ofStore]
    decide +kernel
  refine ⟨h, ?_, ?_⟩
  · rw [validate?_eq_accepts h, ht, Option.map_some, haccepts.1]
  · rw [validate?_eq_accepts h, ht, Option.map_some, haccepts.2]

/-- A member that the record does not declare is not accepted. -/
example : (ofStore .standard [] flagStore).accepts "test" "user"
    (.object [("active", .bool true), ("age", .null)]) = false := by
  unfold accepts demand?
  rw [demands_ofStore]
  decide +kernel

/-! ## Addresses of the schema language

Below a domain where the schema language has documents of its own, a property may refer to a type at
the address of one of them. What the validator of the record follows is then that document. -/

/-- The domain below which the schema language has documents of its own. -/
def vocabularySettings : Settings :=
  { Settings.standard with domain := "https://json-schema.org/draft/2019-09" }

/-- A record that refers to a type at the address of a document of the schema language. -/
def vocabularyStore : Store := ⟨[
  ⟨none, .object [("kind", .string "record"), ("system", .string "meta"),
    ("name", .string "format"), ("properties", .array
      [.object [("name", .string "p"), ("propertyType", .string "validation")]]),
    ("validTestCases", .array [])]⟩,
  ⟨none, .object [("kind", .string "bool"), ("system", .string "meta"),
    ("name", .string "validation")]⟩]⟩

/-- The address of the document of the record, and of one of the schema language. -/
def formatUri : String := "https://json-schema.org/draft/2019-09/meta/format"

/-- The address of the document of the type, and of one of the schema language. -/
def validationUri : String := "https://json-schema.org/draft/2019-09/meta/validation"

def formatSchema : Json := .object
  [("$schema", .string Emitter.draft), ("$id", .string formatUri), ("title", .string "Format"),
    ("type", .string "object"), ("additionalProperties", .bool false),
    ("properties", .object [("p", .object [("$ref", .string validationUri)])])]

def validationSchema : Json := .object
  [("$schema", .string Emitter.draft), ("$id", .string validationUri),
    ("title", .string "Validation"), ("type", .string "boolean")]

/-- The documents of the batch at their addresses. -/
def vocabularyDocuments : List (String × Json) :=
  [(formatUri, formatSchema), (validationUri, validationSchema)]

/-- The documents of the batch whose flag is at a reserved address. -/
theorem documents_vocabularyStore : (ofStore vocabularySettings [] vocabularyStore).documents
    = [⟨"meta/format", formatUri, formatSchema⟩,
      ⟨"meta/validation", validationUri, validationSchema⟩] := by
  unfold documents
  rw [emitted_ofStore, emittedOf, List.mergeSort_of_pairwise]
  · decide +kernel
  · decide +kernel

/-- The engine has them by their addresses. -/
theorem documents_engineOf_vocabularyStore :
    (engineOf vocabularySettings [] vocabularyStore).documents = vocabularyDocuments := by
  unfold engineOf
  rw [Engine.ofDocuments_eq, documents_vocabularyStore]
  rfl

/-- They have different names. -/
theorem typeNames_vocabularyStore_nodup :
    ((ofStore vocabularySettings [] vocabularyStore).documents.map (·.typeName)).Nodup := by
  rw [documents_vocabularyStore]
  decide

/-- Their addresses are in form. -/
theorem isReference_vocabularyDocuments :
    ∀ entry ∈ vocabularyDocuments, Format.isReference false false entry.1 = true := by
  decide +kernel

/-- The document of the record satisfies the schema of schemas. -/
theorem isSchema_formatSchema : MetaSchema.IsSchema formatSchema :=
  isSchema_record (isReference_vocabularyDocuments _ (.head _))
    (isReference_vocabularyDocuments _ (.tail _ (.head _)))

set_option maxRecDepth 100000 in
/-- The document of the record is read, and the validator has no errors for an object where a flag
is asked for. -/
theorem read?_formatSchema : ((read? vocabularyDocuments formatSchema).any fun v =>
    (v.errors (.object [("p", .object [])])).isEmpty) = true := by
  decide +kernel

set_option maxRecDepth 100000 in
/-- So is the schema of its lists. -/
theorem read?_listSchema :
    (read? vocabularyDocuments (Engine.listSchema formatUri)).isSome = true := by
  decide +kernel

/-- So the record has a validator, which accepts that object. -/
theorem exists_validator?_format :
    ∃ t, (ofStore vocabularySettings [] vocabularyStore).validator? "meta" "format" = some t
      ∧ (t.single.errors (.object [("p", .object [])])).isEmpty = true := by
  obtain ⟨single, hsingle, hvalue⟩ := (Option.any_eq_true _ _).1 read?_formatSchema
  obtain ⟨list, hlist⟩ := Option.isSome_iff_exists.1 read?_listSchema
  rw [← documents_engineOf_vocabularyStore] at hsingle hlist
  have hdocument : ⟨"meta/format", formatUri, formatSchema⟩
      ∈ (ofStore vocabularySettings [] vocabularyStore).documents := by
    rw [documents_vocabularyStore]
    exact List.mem_cons_self
  exact ⟨_, lookup_validators_of_read? rfl typeNames_vocabularyStore_nodup hdocument
    isSchema_formatSchema (isReference_vocabularyDocuments _ (.head _)) hsingle hlist, hvalue⟩

/-- Where a property refers to a type at an address of the schema language, a value is measured by
what stands there: a member that should be a flag is an object, and accepted. -/
theorem validate?_vocabularyStore_ne_accepts :
    IsWebDomain vocabularySettings.domain
      ∧ (∀ d ∈ (ofStore vocabularySettings [] vocabularyStore).definitions, d.kind ≠ .object)
      ∧ ((ofStore vocabularySettings [] vocabularyStore).documents.map (·.typeName)).Nodup
      ∧ ((ofStore vocabularySettings [] vocabularyStore).validate? "meta" "format"
          (.object [("p", .object [])])).map (·.isValid) = some true
      ∧ (ofStore vocabularySettings [] vocabularyStore).accepts "meta" "format"
          (.object [("p", .object [])]) = false := by
  refine ⟨⟨⟨"https".toList, "json-schema.org/draft/2019-09".toList, by decide, by decide⟩,
    by decide, by decide⟩, ?_, ?_, ?_, ?_⟩
  · rw [definitions_ofStore]
    decide +kernel
  · exact typeNames_vocabularyStore_nodup
  · obtain ⟨t, ht, hvalue⟩ := exists_validator?_format
    unfold validator? at ht
    rw [validate?_map_isValid, ht]
    exact congrArg some hvalue
  · unfold accepts demand?
    rw [demands_ofStore]
    decide +kernel

/-- What the definition of the record accepts is a flag, at such an address as elsewhere. -/
example : (ofStore vocabularySettings [] vocabularyStore).accepts "meta" "format"
    (.object [("p", .bool true)]) = true := by
  unfold accepts demand?
  rw [demands_ofStore]
  decide +kernel

end Catalog

end TypeCatalog
