import TypeCatalog.Proofs.Catalog.Lists
import TypeCatalog.Proofs.Catalog.Roots
import TypeCatalog.Proofs.Catalog.TypeMap
import TypeCatalog.Proofs.Schema.Spelling
import TypeCatalog.Proofs.TypeMap.Construction
import TypeCatalog.Proofs.Validation.Forwarding

/-!
# Other names for a type

A definition whose schema is a reference and nothing else gives a type another name. Its document
has the members of a header beside the reference, which count for nothing where there is a
reference; and its node is a reference that is neither a scalar nor an enum, so that no walk stops
at it.

`transparent_of_aliases` puts the two together along a chain of such definitions, of any length: the
first name of the chain says of a value what the type at its end says, and it resolves to what that
type resolves to.

The verdict comes from `Validator.errors_of_build_of_reach`, which goes along `Emitter.Forwards`,
and the type map from `TypeMap.resolve_of_follows`. `Definition.IsAliasOf` asks for a `$ref` as the
only member of the fragment; the emitter puts the header in front, and the library ignores what
stands beside a `$ref`.
-/

set_option autoImplicit false

namespace TypeCatalog

/-! ## Documents -/

/-- Whether a definition is but another name for a type: its schema is a reference to the type. -/
def Definition.IsAliasOf (domain : String) (d : Definition) (t : String) : Prop :=
  ∃ b reference, d.body = .object b ∧ b.schema = .object [("$ref", .string reference)]
    ∧ Name.isReference reference = true
    ∧ Name.resolve (some domain) d.header.system reference = t

section

variable {domain t : String} {d : Definition} (h : d.IsAliasOf domain t)

include h

/-- Such a definition is one of an object. -/
theorem Definition.IsAliasOf.kind : d.kind = .object := by
  obtain ⟨b, reference, hbody, -, -, -⟩ := h
  unfold Definition.kind
  rw [hbody]
  rfl

/-- What another name refers to is what it is a name for. -/
theorem Definition.IsAliasOf.references : ∃ b reference, d.body = .object b
    ∧ b.schema = .object [("$ref", .string reference)] ∧ Fragment.isLocal reference = false
    ∧ (Emitter.ofDomain domain).fragmentTarget d.header.system reference = t
    ∧ (Emitter.ofDomain domain).emittedReference d.header.system reference
      = (Emitter.ofDomain domain).uri t := by
  obtain ⟨b, reference, hbody, hschema, hreference, htarget⟩ := h
  have hsign : '#' ∉ reference.toList := by
    obtain ⟨r, rfl⟩ := (Name.isReference_iff reference).1 hreference
    exact r.number_sign_notMem_text
  have hfragment : (Emitter.ofDomain domain).fragmentTarget d.header.system reference = t :=
    (Emitter.fragmentTarget_of_notMem hsign domain d.header.system).trans htarget
  refine ⟨b, reference, hbody, hschema, ?_, hfragment, ?_⟩
  · exact decide_eq_false fun hhead => hsign (List.mem_of_mem_head? hhead)
  · rw [Emitter.emittedReference_eq, hfragment, Fragment.behind_of_notMem hsign]
    exact String.append_empty

/-- A name for a declared type has a document. -/
theorem Definition.IsAliasOf.resolves {declared : Definition → Prop}
    (ht : ∃ u, declared u ∧ u.typeName = t) : d.Resolves (Emitter.ofDomain domain) declared := by
  obtain ⟨b, reference, hbody, hschema, hlocal, htarget, -⟩ := h.references
  unfold Definition.Resolves
  rw [hbody]
  dsimp only
  rw [hschema]
  intro path r hr
  have hreferences : Fragment.references "jsonSchema" (.object [("$ref", .string reference)])
      = [("jsonSchema.$ref", reference)] := by
    simp [Fragment.references, Fragment.memberReferences, Fragment.isDataMember, Json.isString,
      Json.string?, hlocal]
  rw [hreferences, List.mem_singleton] at hr
  cases hr
  rwa [htarget]

/-- The document of a name for a type refers to the type, behind the members of its header. -/
theorem Definition.IsAliasOf.schema : ((Emitter.ofDomain domain).typeDocument d).schema
    = .object ((Emitter.ofDomain domain).headerMembers d.typeName d.header
      ++ [("$ref", .string ((Emitter.ofDomain domain).uri t))]) := by
  obtain ⟨b, reference, hbody, hschema, hlocal, -, hemitted⟩ := h.references
  have hheader : ((Emitter.ofDomain domain).headerMembers d.typeName d.header).lookup "$ref"
      = none := by
    refine Table.lookup_eq_none_iff_forall.2 fun hmem => ?_
    obtain ⟨m, hm, hname⟩ := List.mem_map.1 hmem
    have hmem := Emitter.fst_mem_of_mem_headerMembers hm
    rw [hname] at hmem
    exact absurd hmem (by decide)
  have hmap : Fragment.mapReferences ((Emitter.ofDomain domain).emittedReference d.header.system)
      (.object [("$ref", .string reference)])
        = .object [("$ref", .string ((Emitter.ofDomain domain).uri t))] := by
    simp [Fragment.mapReferences, Fragment.mapMemberReferences, Fragment.isDataMember, hlocal,
      hemitted]
  unfold Emitter.typeDocument
  dsimp only
  rw [hbody]
  unfold Emitter.bodyMembers Emitter.withFragment
  dsimp only
  rw [hschema, hmap]
  show Json.object (_ ++ List.filter _ [_]) = _
  rw [List.filter_singleton, hheader]
  rfl

/-- But for the header, its document has no member other than `$ref`. -/
theorem Definition.IsAliasOf.member? {name : String}
    (hname : name ∉ ["$schema", "$id", "title", "description", "deprecated", "examples"]) :
    ((Emitter.ofDomain domain).typeDocument d).schema.member? name
      = [("$ref", Json.string ((Emitter.ofDomain domain).uri t))].lookup name := by
  rw [h.schema]
  show List.lookup name (_ ++ _) = _
  rw [Table.lookup_eq_map_find?, Emitter.find?_headerMembers_append _ hname,
    ← Table.lookup_eq_map_find?]

/-- So its document refers to the type. -/
theorem Definition.IsAliasOf.refersTo :
    (Emitter.ofDomain domain).RefersTo t ((Emitter.ofDomain domain).typeDocument d).schema := by
  refine ⟨_, h.schema, ?_⟩
  rw [Emitter.find?_headerMembers_append _ (by decide)]
  rfl

end

/-! ## Chains -/

namespace Catalog

/-- Whether a definition of a batch is but another name for a definition of the batch. -/
structure Aliases (c : Catalog) (a t : Definition) : Prop where
  mem : a ∈ c.definitions
  target : t ∈ c.definitions
  isAliasOf : a.IsAliasOf c.domain t.typeName

variable {settings : Settings} {formats : List Format} {store : Store}

section

variable (hnodup : ((ofStore settings formats store).documents.map (·.typeName)).Nodup)
  {a t : Definition} (h : (ofStore settings formats store).Aliases a t)

include h

/-- The document of a name for a declared type is among those of the batch. -/
theorem Aliases.mem_documents : (Emitter.ofDomain settings.domain).typeDocument a
    ∈ (ofStore settings formats store).documents := by
  have hresolves := h.isAliasOf.resolves ⟨t, h.target, rfl⟩
  have hmem : a ∈ resolved settings formats store :=
    mem_resolvedOf.2 ⟨h.mem, (Emitter.unresolvedReferences_eq_nil_iff typeNames_nodup).2 hresolves⟩
  exact Catalog.mem_documents.2 ⟨a, hmem, List.mem_cons_self⟩

include hnodup

/-- The engine holds a document that refers on to the type. -/
theorem Aliases.forwards : (Emitter.ofDomain settings.domain).Forwards
    (engineOf settings formats store).documents a.typeName t.typeName where
  name := isTypeName_of_mem h.mem
  target := isTypeName_of_mem h.target
  document := ⟨_, (lookup_engineOf hnodup h.mem_documents).2, h.isAliasOf.refersTo⟩

/-- The type map leads on from a name for a type to the type. -/
theorem Aliases.follows (acceptEnums : Bool) :
    (ofStore settings formats store).typeMap.Follows acceptEnums a.typeName 0 t.typeName := by
  obtain ⟨root, henters⟩ := exists_enters hnodup h.mem_documents
  have hkind : a.kind ≠ .enum := by
    rw [h.isAliasOf.kind]
    exact TypeKind.noConfusion
  have hother := lookup_enums_eq_none h.mem hkind
  rw [show a.typeName = root.typeName from henters.typeName.symm] at hother
  have href := henters.ref? (Builder.refOf?_of_ref hother (h.isAliasOf.member? (by decide))
    (isTypeName_of_mem h.target) (h.isAliasOf.member? (by decide)))
  have hgoes : ¬ ((root.ref t.typeName false).isRoot = true
      ∧ ((root.ref t.typeName false).isScalar = true
        ∨ (root.ref t.typeName false).isEnum = true ∧ acceptEnums = true)) := by
    rintro ⟨-, hscalar | ⟨henum, -⟩⟩
    · exact Bool.noConfusion hscalar
    · exact Bool.noConfusion henum
  rw [← henters.depth]
  exact .ref (TypeMap.isQualified_qualify _ _) href hgoes

end

/-- A chain of names leads to a type, of any length. Where the documents of a batch have different
names, the first name resolves to whatever the type resolves to, with the same lists around it. And
where the documents are plain that the first name reaches and both have validators, it gives a value
the verdict and the errors that the type gives, if no circle of references is followed for one place
of a value. -/
theorem transparent_of_aliases
    (hnodup : ((ofStore settings formats store).documents.map (·.typeName)).Nodup)
    {a t : Definition} (hchain : Relation.TransGen (ofStore settings formats store).Aliases a t) :
    ((ofStore settings formats store).IsPlainFrom a.typeName → ∀ v w,
      (ofStore settings formats store).validator? t.header.system t.header.name = some v →
      (ofStore settings formats store).validator? a.header.system a.header.name = some w →
      w.single.Ends → ∀ x,
        (ofStore settings formats store).validate? a.header.system a.header.name x
          = (ofStore settings formats store).validate? t.header.system t.header.name x)
    ∧ ∀ acceptEnums depth r,
      (ofStore settings formats store).typeMap.resolve acceptEnums t.typeName depth = .ok r →
      (ofStore settings formats store).typeMap.resolve acceptEnums a.typeName depth = .ok r := by
  constructor
  · intro hplain v w hv hw hends x
    obtain ⟨ht, document, hdocument, hsingle, hlist⟩ := builds_of_lookup_validators hv
    obtain ⟨-, schema, hschema, hbuild, -⟩ := builds_of_lookup_validators hw
    have hforwards : Relation.TransGen ((Emitter.ofDomain settings.domain).Forwards
        (engineOf settings formats store).documents) a.typeName t.typeName :=
      hchain.lift Definition.typeName fun _ _ h => h.forwards hnodup
    have herrors := Validator.errors_of_build_of_reach hplain.domain ht hdocument hlist hsingle
      hplain.isPlainReach hforwards hschema hbuild hends x
    unfold validate?
    rw [hv, hw]
    exact congrArg (fun errors => some (Outcome.mk errors)) herrors
  · intro acceptEnums depth r hr
    -- The type map does not look at documents other than those of the chain, so nothing is asked of
    -- them here.
    induction hchain using Relation.TransGen.head_induction_on with
    | single h =>
        have hresolve := TypeMap.resolve_of_follows (h.follows hnodup acceptEnums) depth
        rwa [hr] at hresolve
    | head h _ ih =>
        have hresolve := TypeMap.resolve_of_follows (h.follows hnodup acceptEnums) depth
        rwa [ih] at hresolve

/-! ## A chain in a batch -/

/-- The flag that both names stand for. -/
def flagDefinition : Definition :=
  Definition.withDefaults ⟨⟨"test", "flag", none, none, none, none, none, none⟩, .bool ⟨none, none⟩⟩

/-- A definition that is a reference and nothing else. -/
def markDefinition (system reference : String) : Definition :=
  Definition.withDefaults ⟨⟨system, "mark", none, none, none, none, none, none⟩,
    .object ⟨.object [("$ref", .string reference)], ⟨none, none⟩⟩⟩

/-- The definitions of the batch, in the order of the store. -/
theorem definitions_markStore : (ofStore .standard [] markStore).definitions
    = [markDefinition "shop" "test/mark", flagDefinition, markDefinition "test" "flag"] := by
  rw [definitions_ofStore]
  decide +kernel

/-- The mark of the shop leads to the flag by way of the mark of the test system. -/
theorem aliases_markStore : Relation.TransGen (ofStore .standard [] markStore).Aliases
    (markDefinition "shop" "test/mark") flagDefinition := by
  have hmem {d : Definition} (h : d ∈ [markDefinition "shop" "test/mark", flagDefinition,
      markDefinition "test" "flag"]) : d ∈ (ofStore .standard [] markStore).definitions := by
    rwa [definitions_markStore]
  have halias {system reference t : String} (hreference : Name.isReference reference = true)
      (ht : Name.resolve (some "https://jsonotron.org") system reference = t) :
      (markDefinition system reference).IsAliasOf "https://jsonotron.org" t :=
    ⟨_, reference, rfl, rfl, hreference, ht⟩
  have hfirst : (ofStore .standard [] markStore).Aliases (markDefinition "shop" "test/mark")
      (markDefinition "test" "flag") :=
    ⟨hmem (by decide), hmem (by decide), halias (by decide) (by decide)⟩
  have hsecond : (ofStore .standard [] markStore).Aliases (markDefinition "test" "flag")
      flagDefinition := ⟨hmem (by decide), hmem (by decide), halias (by decide) (by decide)⟩
  exact .head hfirst (.single hsecond)

set_option maxRecDepth 100000 in
/-- Both schemas of the flag are read. -/
theorem read?_flag : (read? markDocuments flagSchema).isSome = true
    ∧ (read? markDocuments (Engine.listSchema flagUri)).isSome = true := by
  decide +kernel

/-- So the flag has a validator. -/
theorem exists_validator?_flag :
    ∃ t, (ofStore .standard [] markStore).validator? "test" "flag" = some t := by
  obtain ⟨hsingle, hlist⟩ := read?_flag
  obtain ⟨single, hsingle⟩ := Option.isSome_iff_exists.1 hsingle
  obtain ⟨list, hlist⟩ := Option.isSome_iff_exists.1 hlist
  rw [← documents_engineOf_markStore] at hsingle hlist
  have hdocument : ⟨"test/flag", flagUri, flagSchema⟩
      ∈ (ofStore .standard [] markStore).documents := by
    rw [documents_markStore]
    exact .tail _ (.head _)
  have huri : Format.isReference false false flagUri = true := by decide +kernel
  have hboolean : MetaSchema.IsMember "type" (.string "boolean") := .type (by decide)
  have hschema : MetaSchema.IsSchema flagSchema :=
    isSchema_headed huri (List.forall_mem_singleton.2 hboolean)
  exact ⟨_, lookup_validators_of_read? rfl typeNames_markStore_nodup hdocument hschema huri hsingle
    hlist⟩

/-- The two names of the flag in a batch: one of them is a name for the other. -/
theorem transparent_markStore :
    ((ofStore .standard [] markStore).documents.map (·.typeName)).Nodup
    ∧ Relation.TransGen (ofStore .standard [] markStore).Aliases
      (markDefinition "shop" "test/mark") flagDefinition
    ∧ (ofStore .standard [] markStore).IsPlainFrom (markDefinition "shop" "test/mark").typeName
    ∧ (∃ v w, (ofStore .standard [] markStore).validator? "test" "flag" = some v
      ∧ (ofStore .standard [] markStore).validator? "shop" "mark" = some w ∧ w.single.Ends)
    ∧ (∀ x, (ofStore .standard [] markStore).validate? "shop" "mark" x
      = (ofStore .standard [] markStore).validate? "test" "flag" x)
    ∧ (ofStore .standard [] markStore).typeMap.resolve false
        (markDefinition "shop" "test/mark").typeName 2
      = .ok ⟨"test/flag", 2, .scalar⟩ := by
  obtain ⟨v, hv⟩ := exists_validator?_flag
  obtain ⟨w, hw, hends, -⟩ := exists_validator?_shopMark
  obtain ⟨hvalidate, hresolve⟩ := transparent_of_aliases typeNames_markStore_nodup aliases_markStore
  have hresolved : flagDefinition ∈ resolved .standard [] markStore := by
    refine mem_resolvedOf.2 ⟨?_, rfl⟩
    rw [definitions_markStore]
    exact .tail _ (.head _)
  have hflag := resolve_of_kind typeNames_markStore_nodup hresolved (by decide) false 2
  exact ⟨typeNames_markStore_nodup, aliases_markStore, isPlainFrom_markStore _,
    ⟨v, w, hv, hw, hends⟩,
    hvalidate (isPlainFrom_markStore _) v w hv hw hends, hresolve false 2 _ hflag⟩

/-! ## Chains that are not transparent

A reference leads to an address, and what the validator finds there may be something else than the
document of the type: a document of the schema language, a part of one, or a part of the document
that names itself so. -/

/-- A type that is given as a schema, and another name for it. -/
def aliasStore (system other name : String) (members : List (String × Json)) : Store := ⟨[
  ⟨none, .object [("kind", .string "object"), ("system", .string system), ("name", .string other),
    ("jsonSchema", .object [("$ref", .string name)])]⟩,
  ⟨none, .object [("kind", .string "object"), ("system", .string system), ("name", .string name),
    ("jsonSchema", .object members)]⟩]⟩

/-- What the other name and the type say of a value. -/
def aliasVerdicts (domain system other name : String) (members : List (String × Json)) (x : Json) :
    Option Outcome × Option Outcome :=
  let c := ofStore (settingsAt domain) [] (aliasStore system other name members)
  (c.validate? system other x, c.validate? system name x)

/-- The errors that are read of a document among some others, if lists can be read of it, too. -/
def readErrorsAmong? (documents : List Document) (document : Document) (x : Json) :
    Option (List ValueError) :=
  let table := documents.foldl (fun t d => Table.insert d.uri d.schema t) []
  (read? table document.schema).bind fun v =>
    (read? table (Engine.listSchema document.uri)).map fun _ => v.errors x

/-- What reading a document gives is the verdict of the batch, when the document is a schema in
form. -/
theorem validate?_of_readErrorsAmong? {settings : Settings} {store : Store}
    (hchecks : settings.validateFormats = true)
    (hnodup : ((ofStore settings [] store).documents.map (·.typeName)).Nodup) {system name : String}
    {document : Document} (hdocument : document ∈ (ofStore settings [] store).documents)
    (hname : document.typeName = Name.qualify system name)
    (hschema : MetaSchema.IsSchema document.schema)
    (huri : Format.isReference false false document.uri = true) {x : Json} {es : List ValueError}
    (hread : readErrorsAmong? (ofStore settings [] store).documents document x = some es) :
    (ofStore settings [] store).validate? system name x = some ⟨es⟩ := by
  obtain ⟨single, hsingle, hread⟩ := Option.bind_eq_some_iff.1 hread
  obtain ⟨list, hlist, rfl⟩ := Option.map_eq_some_iff.1 hread
  have hengine : (engineOf settings [] store).documents
      = (ofStore settings [] store).documents.foldl
        (fun t d => Table.insert d.uri d.schema t) [] := by
    unfold engineOf
    rw [Engine.ofDocuments_eq]
  rw [← hengine] at hsingle hlist
  have hvalidators := lookup_validators_of_read? hchecks hnodup hdocument hschema huri hsingle hlist
  unfold validate? validator?
  rw [← hname, hvalidators]
  rfl

/-- The documents of such a batch. -/
def aliasDocuments (domain system other name title title' : String)
    (members : List (String × Json)) : List Document :=
  let uri := (Emitter.ofDomain domain).uri (Name.qualify system other)
  let uri' := (Emitter.ofDomain domain).uri (Name.qualify system name)
  [⟨Name.qualify system other, uri, headed uri title [("$ref", .string uri')]⟩,
    ⟨Name.qualify system name, uri', headed uri' title' members⟩]

/-- The verdicts of the two types of such a batch are those that reading their documents gives. -/
theorem aliasVerdicts_eq {domain system other name title title' : String}
    {members : List (String × Json)} {x : Json}
    (hdocuments : (ofStore (settingsAt domain) [] (aliasStore system other name members)).documents
      = aliasDocuments domain system other name title title' members)
    (hne : Name.qualify system other ≠ Name.qualify system name)
    (huri : Format.isReference false false
      ((Emitter.ofDomain domain).uri (Name.qualify system other)) = true)
    (huri' : Format.isReference false false
      ((Emitter.ofDomain domain).uri (Name.qualify system name)) = true)
    (hmembers : ∀ m ∈ members, MetaSchema.IsMember m.1 m.2) {es es' : List ValueError}
    (hread : (aliasDocuments domain system other name title title' members).map
        (readErrorsAmong? (aliasDocuments domain system other name title title' members) · x)
      = [some es, some es']) :
    aliasVerdicts domain system other name members x = (some ⟨es⟩, some ⟨es'⟩) := by
  rw [← hdocuments] at hread
  have hnodup : ((ofStore (settingsAt domain) []
      (aliasStore system other name members)).documents.map
      (·.typeName)).Nodup := by
    rw [hdocuments]
    exact List.nodup_cons.2 ⟨fun h => hne (List.mem_singleton.1 h), List.nodup_singleton _⟩
  have hmem {d : Document} (hd : d ∈ aliasDocuments domain system other name title title' members) :
      d ∈ (ofStore (settingsAt domain) [] (aliasStore system other name members)).documents := by
    rwa [hdocuments]
  obtain ⟨hes, hes'⟩ : _ = some es ∧ [_] = [some es'] := List.cons.inj
    ((congrArg (List.map _) hdocuments).symm.trans hread)
  have hreference : ∀ m ∈ [("$ref", Json.string ((Emitter.ofDomain domain).uri
      (Name.qualify system name)))], MetaSchema.IsMember m.1 m.2 :=
    List.forall_mem_singleton.2 (.address (by simp) huri')
  refine Prod.ext ?_ ?_
  · exact validate?_of_readErrorsAmong? rfl hnodup (hmem (.head _)) rfl
      (isSchema_headed huri hreference) huri hes
  · exact validate?_of_readErrorsAmong? rfl hnodup (hmem (.tail _ (.head _))) rfl
      (isSchema_headed huri' hmembers) huri' (List.cons.inj hes').1

set_option maxRecDepth 100000 in
/-- Names for a type that say something else than the type: below a domain that ends with a
fragment, where the addresses are those of places in a document of the schema language, and where a
part of the document has the address of the whole. -/
theorem aliasVerdicts_ne :
    aliasVerdicts "http://json-schema.org/draft-07/schema#" "definitions" "nonNegativeInteger"
        "simpleTypes" [("$ref", .string "#/properties/x"),
          ("properties", .object [("x", .object [("type", .string "boolean")])])] (.string "array")
      = (some ⟨[]⟩, some ⟨[.here "\"array\" is not of type \"boolean\""]⟩)
    ∧ aliasVerdicts "https://a.org" "test" "alias" "box"
        [("properties", .object [("x", .object [("$id", .string "https://a.org/test/box"),
          ("type", .string "string")])])] (.object [])
      = (some ⟨[.here "\x7b\x7d is not of type \"string\""]⟩, some ⟨[]⟩) := by
  have hboolean : MetaSchema.IsMember "type" (.string "boolean") := .type (by decide)
  constructor
  · refine @aliasVerdicts_eq _ _ _ _ "Non Negative Integer" "Simple Types" _ _ ?_ (by decide)
      (by decide +kernel) (by decide +kernel) ?_ _ _ (by decide +kernel)
    · unfold documents
      rw [emitted_ofStore, emittedOf, List.mergeSort_of_pairwise]
      · decide +kernel
      · decide +kernel
    · rw [List.forall_mem_cons, List.forall_mem_singleton]
      exact ⟨.address (by simp) (by decide +kernel), .schemas (List.forall_mem_singleton.2
        (.object (List.forall_mem_singleton.2 hboolean)))⟩
  · refine @aliasVerdicts_eq _ _ _ _ "Alias" "Box" _ _ ?_ (by decide)
      (by decide +kernel) (by decide +kernel) ?_ _ _ (by decide +kernel)
    · unfold documents
      rw [emitted_ofStore, emittedOf, List.mergeSort_of_pairwise]
      · decide +kernel
      · decide +kernel
    · refine List.forall_mem_singleton.2 (.schemas (List.forall_mem_singleton.2 (.object ?_)))
      rw [List.forall_mem_cons, List.forall_mem_singleton]
      exact ⟨.address (by simp) (by decide +kernel), .type (by decide)⟩

end Catalog

end TypeCatalog
