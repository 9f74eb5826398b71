import TypeCatalog.Proofs.Validation.Closure
import TypeCatalog.Proofs.Validation.Forms
import TypeCatalog.Proofs.Validation.Plain

/-!
# What is collected from plain documents

The documents of a batch are plain when no schema inside them has an address or a version of its own
and their references are local or lead to types of the batch. What is collected from such a
document is told by `Registry.IsCollected`: apart from the documents of the schema language and the
schema that the collection began with, there are documents of types, each at an address of its type.

A type is its own (`Emitter.IsOwn`) when no form of its address is one of the schema language.

`Registry.collect` runs the same survey as in `Closure`; here it is taken as given that it succeeds,
and each function gets one lemma on what it may enter. `IsTame` is what the invariant
`Survey.Collects` asks of a schema that waits: it has no address and no anchors of its own, or it is
the document of a type.
-/

set_option autoImplicit false

namespace TypeCatalog

open Result

/-- A schema is in the version of documents when it names that one or none. -/
theorem Draft.detect_of_version {v : Json}
    (h : ∀ s, v.member? "$schema" = some (.string s) → s = Emitter.draft) :
    Draft.draft7.detect v = .ok .draft7 := by
  unfold Draft.detect
  cases hs : (v.member? "$schema").bind Json.string? with
  | none => rfl
  | some s =>
      obtain ⟨value, hvalue, hstring⟩ := Option.bind_eq_some_iff.1 hs
      cases value with
      | string s =>
          cases hstring
          rw [h s hvalue]
          decide
      | _ => cases hstring

/-! ## Addresses of a batch -/

/-- Whether an address belongs to a document of the schema language. -/
def Site.IsReserved (address : String) : Prop :=
  (MetaSchema.registry.resource? address).isSome = true

instance (address : String) : Decidable (Site.IsReserved address) :=
  inferInstanceAs (Decidable (_ = true))

/-- The address of the root is not reserved. -/
theorem Site.not_isReserved_rootBase : ¬ Site.IsReserved Site.rootBase.text := by decide +kernel

/-- It is read as itself. -/
theorem Site.parse_rootBase : Uri.parse Site.rootBase.text = .ok Site.rootBase := by decide +kernel

namespace Emitter

variable (e : Emitter)

/-- Whether no form of the address of a type is reserved, also when it is read again. -/
def IsOwn (t : String) : Prop :=
  ∀ address ∈ e.forms t, ¬ Site.IsReserved address
    ∧ ∀ u ∈ (Uri.parse address).toOption, ¬ Site.IsReserved u.text

instance (t : String) : Decidable (e.IsOwn t) :=
  inferInstanceAs (Decidable (∀ address ∈ e.forms t, ¬ Site.IsReserved address
    ∧ ∀ u ∈ (Uri.parse address).toOption, ¬ Site.IsReserved u.text))

/-- Whether a text is the address of a type with a pointer behind it or none. -/
def PointsTo (t s : String) : Prop :=
  s = e.uri t ∨ ∃ pointer : String, '#' ∉ pointer.toList ∧ s = e.uri t ++ "#" ++ pointer

/-- Whether a text refers to a place in the same document, or points to a type. -/
def IsReference (s : String) : Prop :=
  Fragment.isLocal s = true ∨ ∃ t, Name.IsTypeName t ∧ e.IsOwn t ∧ e.PointsTo t s

/-- Whether a document names itself and the version of the schema language, and has plain parts. -/
structure IsPlainDocument (t : String) (schema : Json) : Prop where
  address : schema.member? "$id" = some (.string (e.uri t))
  version : schema.member? "$schema" = some (.string draft)
  parts : schema.HasPlainParts e.IsReference

/-- Whether a table holds documents at addresses of types alone. -/
def IsNamedTable (documents : List (String × Json)) : Prop :=
  ∀ address schema, documents.lookup address = some schema →
    ∃ t, Name.IsTypeName t ∧ address = e.uri t

/-- Whether a table holds plain documents of types, each at the address of its type. -/
def IsPlainTable (documents : List (String × Json)) : Prop :=
  ∀ address schema, documents.lookup address = some schema →
    ∃ t, Name.IsTypeName t ∧ e.IsOwn t ∧ address = e.uri t ∧ e.IsPlainDocument t schema

variable {e} in
/-- A plain table has its documents under the names of their types. -/
theorem IsPlainTable.isNamedTable {documents : List (String × Json)}
    (h : e.IsPlainTable documents) : e.IsNamedTable documents := by
  intro address schema hlookup
  obtain ⟨t, ht, -, haddress, -⟩ := h address schema hlookup
  exact ⟨t, ht, haddress⟩

/-- Whether a resource is the document of a type of a table, at a form of the address of the
type. -/
structure Holds (documents : List (String × Json)) (t address : String) (resource : Resource) :
    Prop where
  name : Name.IsTypeName t
  draft : resource.draft = .draft7
  document : documents.lookup (e.uri t) = some resource.schema
  address : address ∈ e.forms t

end Emitter

/-- Whether a registry holds documents of types, apart from the documents of the schema language and
the schema that it was collected from, if this has no address, and knows no other names of places.
Only a schema with an address may stand at the address by itself. -/
structure Registry.IsCollected (e : Emitter) (documents : List (String × Json)) (start : Json)
    (r : Registry) : Prop where
  origin : ∀ base, Site.address ⟨.draft7, start⟩ = .ok base →
    (base.text, ⟨.draft7, start⟩) ∈ r.resources
  resources : ∀ address resource, (address, resource) ∈ r.resources →
    (address, resource) ∈ MetaSchema.registry.resources
      ∨ (address, resource) = (Site.rootBase.text, ⟨.draft7, start⟩)
      ∨ ∃ t, e.Holds documents t address resource
        ∧ ((Draft.draft7.ownAddress? start).isSome = true ∨ address = e.uri t
          ∨ ∃ u, Site.resolve Site.rootBase (e.uri t) = .ok u ∧ address = u.text)
  anchors : r.anchors = MetaSchema.registry.anchors

namespace Emitter

variable {e : Emitter} {documents : List (String × Json)} {t : String} {schema : Json}

/-! ## Documents of types -/

section

variable (haddresses : e.HasAddresses) (ht : Name.IsTypeName t)

include haddresses ht

/-- A reference to an address of a type is not local. -/
theorem HasAddresses.isLocal : Fragment.isLocal (e.uri t) = false :=
  decide_eq_false fun h => haddresses.noSign t ht (List.mem_of_mem_head? h)

/-- No number sign is trimmed off it. -/
theorem HasAddresses.trimNumberSigns : Draft.trimNumberSigns (e.uri t) = e.uri t := by
  unfold Draft.trimNumberSigns
  rw [List.dropWhile_eq_self_iff.2, List.reverse_reverse, String.ofList_toList]
  intro hpos hsign
  refine haddresses.noSign t ht (List.mem_reverse.1 ?_)
  rw [← of_decide_eq_true hsign]
  exact List.getElem_mem hpos

/-- A document gives itself the address of its type, unless a reference hides all that stands beside
it. -/
theorem HasAddresses.ownAddress? (hid : schema.member? "$id" = some (.string (e.uri t))) :
    Draft.draft7.ownAddress? schema
      = if (schema.member? "$ref").isSome then none else some (e.uri t) := by
  have hfilter : (some (e.uri t)).filter (fun s => !Fragment.isLocal s) = some (e.uri t) := by
    rw [Option.filter_some, haddresses.isLocal ht]
    rfl
  unfold Draft.ownAddress? Draft.idText?
  dsimp only
  rw [if_neg (by decide)]
  cases (schema.member? "$ref").isSome with
  | true => rfl
  | false =>
      rw [if_neg Bool.false_ne_true, if_neg Bool.false_ne_true, if_neg (by decide), hid,
        Option.bind_some, Json.string?, hfilter, Option.map_some, haddresses.trimNumberSigns ht]

/-- The own address of a plain document is that of its type, unless it has a `$ref`, beside which
the library ignores it. -/
theorem IsPlainDocument.ownAddress? (h : e.IsPlainDocument t schema) :
    Draft.draft7.ownAddress? schema
      = if (schema.member? "$ref").isSome then none else some (e.uri t) :=
  haddresses.ownAddress? ht h.address

/-- A plain document has no anchors. -/
theorem IsPlainDocument.anchors (h : e.IsPlainDocument t schema) :
    Draft.draft7.anchors schema = [] := by
  unfold Draft.anchors
  dsimp only
  rw [if_neg (by decide), h.address, Option.bind_some, Json.string?, Option.filter_some,
    haddresses.isLocal ht]
  rfl

end

/-- Its draft is the one that it names. -/
theorem IsPlainDocument.detect (h : e.IsPlainDocument t schema) :
    Draft.draft7.detect schema = .ok .draft7 := by
  refine Draft.detect_of_version fun s hs => ?_
  rw [h.version] at hs
  cases hs
  rfl

/-- The document of a type stands at the address under which the table has it. -/
theorem Holds.of_lookup (ht : Name.IsTypeName t) (h : documents.lookup (e.uri t) = some schema) :
    e.Holds documents t (e.uri t) ⟨.draft7, schema⟩ := ⟨ht, rfl, h, uri_mem_forms⟩

/-- What stands at addresses of one type is one document. -/
theorem Holds.unique (haddresses : e.HasAddresses) {t' address address' : String}
    {resource resource' : Resource} (h : e.Holds documents t address resource)
    (h' : e.Holds documents t' address' resource') (haddress : IsAddressOf address t') :
    t = t' ∧ resource = resource' := by
  obtain rfl := (haddresses.isAddressOf h.name h.address).unique h.name h'.name haddress
  refine ⟨rfl, ?_⟩
  obtain ⟨draft, schema⟩ := resource
  obtain ⟨draft', schema'⟩ := resource'
  obtain rfl : draft = .draft7 := h.draft
  obtain rfl : draft' = .draft7 := h'.draft
  obtain rfl : schema = schema' := Option.some.inj (h.document.symm.trans h'.document)
  rfl

section

variable (htable : e.IsPlainTable documents) {address : String} {resource : Resource}
  (h : e.Holds documents t address resource)

include htable h

/-- The type of a document that is held is its own. -/
theorem Holds.isOwn : e.IsOwn t := by
  obtain ⟨t', ht', hown, huri, -⟩ := htable _ _ h.document
  rwa [(e.isAddressOf_uri t).unique h.name ht' (huri ▸ e.isAddressOf_uri t')]

/-- And the document is plain. -/
theorem Holds.isPlainDocument : e.IsPlainDocument t resource.schema := by
  obtain ⟨t', ht', -, huri, hdocument⟩ := htable _ _ h.document
  rwa [(e.isAddressOf_uri t).unique h.name ht' (huri ▸ e.isAddressOf_uri t')]

end

end Emitter

/-! ## Surveys -/

namespace Survey

variable {e : Emitter} {documents : List (String × Json)} {start : Json}

/-- Noting the references of a schema changes neither what is known nor what waits. -/
theorem notes_note {follow : Json → Survey → Except SchemaFault Survey}
    (hfollow : ∀ part s s', follow part s = .ok s' → Notes s s') {base : Uri} {whole : Json}
    {s s' : Survey} {reference : String} (h : note follow base whole s reference = .ok s') :
    Notes s s' := by
  unfold note at h
  split at h
  · cases h
    exact .refl s
  · dsimp only at h
    split at h
    · split at h
      · cases h
        exact ⟨rfl, rfl, List.Subset.refl _⟩
      · have hnotes := hfollow _ _ _ h
        exact ⟨hnotes.registry, hnotes.waiting, hnotes.pending⟩
    · obtain ⟨u, -, rfl⟩ := map_eq_ok.1 h
      exact ⟨rfl, rfl, List.subset_cons_self _ _⟩

/-- Noting a reference notes only. -/
theorem notes_noteOf {base : Uri} {whole : Json} {rounds : Nat} {part : Json} {s s' : Survey}
    (h : noteOf base whole rounds part s = .ok s') : Notes s s' := by
  induction rounds generalizing part s s' with
  | zero =>
      cases h
      exact .refl s
  | succ rounds ih =>
      unfold noteOf at h
      refine foldlM_preserves (fun reference _ b c hb hc => ?_) (Notes.refl s) h
      exact hb.trans (notes_note (fun _ _ _ => ih) hc)

/-- So does noting all references of a schema. -/
theorem notes_noteAll {base : Uri} {schema : Json} {s s' : Survey}
    (h : noteAll base schema s = .ok s') : Notes s s' := by
  unfold noteAll at h
  split at h
  · cases h
    exact .refl s
  · exact notes_noteOf h

/-- Whether a schema with plain parts has no name, or is the document of a type that has the name
of the type. -/
structure IsTame (e : Emitter) (documents : List (String × Json)) (schema : Json) : Prop where
  parts : schema.HasPlainParts e.IsReference
  anchors : Draft.draft7.anchors schema = []
  address : Draft.draft7.ownAddress? schema = none
    ∨ ∃ t, Name.IsTypeName t ∧ documents.lookup (e.uri t) = some schema
      ∧ Draft.draft7.ownAddress? schema = some (e.uri t)

/-- A plain schema is tame, since it has no address. -/
theorem IsTame.of_isPlain {schema : Json} (h : schema.IsPlain e.IsReference) :
    IsTame e documents schema :=
  ⟨h.hasPlainParts, Draft.anchors_of_isPlain h, .inl (Draft.ownAddress?_of_isPlain h)⟩

/-- So is the document of a type in the table. -/
theorem IsTame.of_lookup (haddresses : e.HasAddresses) {t : String} (ht : Name.IsTypeName t)
    {schema : Json} (hlookup : documents.lookup (e.uri t) = some schema)
    (h : e.IsPlainDocument t schema) : IsTame e documents schema := by
  refine ⟨h.parts, h.anchors haddresses ht, ?_⟩
  rw [h.ownAddress? haddresses ht]
  split
  · exact .inl rfl
  · exact .inr ⟨t, ht, hlookup, rfl⟩

/-- Whether a survey has met schemas of the kinds that documents hold. -/
structure Collects (e : Emitter) (documents : List (String × Json)) (start : Json) (s : Survey) :
    Prop where
  registry : s.registry.IsCollected e documents start
  waiting : ∀ site ∈ s.waiting, site.resource.draft = .draft7
    ∧ IsTame e documents site.resource.schema

/-- Noting keeps what is collected. -/
theorem Collects.notes {s s' : Survey} (hs : s.Collects e documents start) (h : Notes s s') :
    s'.Collects e documents start := by
  refine ⟨?_, ?_⟩
  · rw [h.registry]
    exact hs.registry
  · rw [h.waiting]
    exact hs.waiting

/-- A tame schema may begin to wait. -/
theorem Collects.append {s : Survey} (hs : s.Collects e documents start) {schema : Json}
    (hschema : IsTame e documents schema) (base : Uri) :
    Collects e documents start { s with waiting := s.waiting ++ [⟨base, ⟨.draft7, schema⟩⟩] } := by
  refine ⟨hs.registry, ?_⟩
  rw [List.forall_mem_append, List.forall_mem_singleton]
  exact ⟨hs.waiting, rfl, hschema⟩

/-- A schema inside another one waits. -/
theorem Collects.enqueue {base : Uri} {schema : Json} (hplain : schema.IsPlain e.IsReference)
    {s s' : Survey} (hs : s.Collects e documents start)
    (h : Survey.enqueue base .draft7 s schema = .ok s') : s'.Collects e documents start := by
  unfold Survey.enqueue at h
  obtain ⟨draft, hdraft, h⟩ := bind_eq_ok.1 h
  rw [Draft.detect_of_isPlain hplain] at hdraft
  cases hdraft
  obtain ⟨entered, -, h⟩ := bind_eq_ok.1 h
  obtain ⟨noted, hnoted, h⟩ := bind_eq_ok.1 h
  cases h
  exact (hs.notes (notes_noteAll hnoted)).append (.of_isPlain hplain) base

variable (haddresses : e.HasAddresses)

include haddresses

/-- Going through a schema enters the document of a type at its address, and nothing else. -/
theorem Collects.visit {site : Site} {s s' : Survey} (hs : s.Collects e documents start)
    (hdraft : site.resource.draft = .draft7) (htame : IsTame e documents site.resource.schema)
    (h : Survey.visit s site = .ok s') : s'.Collects e documents start := by
  obtain ⟨begun, draft, schema⟩ := site
  cases hdraft
  unfold Survey.visit at h
  obtain ⟨base, hbase, h⟩ := bind_eq_ok.1 h
  obtain ⟨noted, hnoted, h⟩ := bind_eq_ok.1 h
  unfold Site.enter at hbase
  dsimp only at hbase hnoted h htame
  have hcollects : noted.Collects e documents start := by
    refine Collects.notes ⟨?_, ?_⟩ (notes_noteAll hnoted)
    · show Registry.IsCollected e documents start
        (Registry.addAnchors _ base.text ⟨.draft7, schema⟩)
      unfold Registry.addAnchors
      dsimp only
      rw [htame.anchors, List.map_nil, List.reverse_nil, List.nil_append]
      -- Only a document enters itself, and at the address that its type has at the root.
      rcases htame.address with hnone | ⟨t, ht, hlookup, hsome⟩
      · rw [hnone]
        exact hs.registry
      · rw [hsome] at hbase ⊢
        refine ⟨fun base₀ hbase₀ => .tail _ (hs.registry.origin base₀ hbase₀),
          fun address resource hmem => ?_, hs.registry.anchors⟩
        rcases List.mem_cons.1 hmem with heq | hmem
        · cases heq
          have hroot := (haddresses.resolve t begun base ht hbase).2.2
          exact .inr (.inr ⟨t, ⟨ht, rfl, hlookup, Emitter.text_mem_forms_of_resolve hroot⟩,
            .inr (.inr ⟨base, hroot, rfl⟩)⟩)
        · exact hs.registry.resources address resource hmem
    · exact hs.waiting
  refine foldlM_preserves (fun x hx b c hb hc => hb.enqueue ?_ hc) hcollects h
  exact Draft.isPlain_of_mem_subschemas htame.parts _ hx

/-- Going through all schemas that wait keeps what is collected. -/
theorem Collects.visitAll {rounds : Nat} {s s' : Survey} (hs : s.Collects e documents start)
    (h : Survey.visitAll rounds s = .ok s') : s'.Collects e documents start := by
  induction rounds generalizing s with
  | zero =>
      cases h
      exact hs
  | succ rounds ih =>
      unfold Survey.visitAll at h
      split at h
      · cases h
        exact hs
      · next site rest hwaiting =>
          obtain ⟨visited, hvisited, h⟩ := bind_eq_ok.1 h
          have hall := hs.waiting
          rw [hwaiting, List.forall_mem_cons] at hall
          refine ih (Collects.visit haddresses ?_ hall.1.1 hall.1.2 hvisited) h
          exact ⟨hs.registry, hall.2⟩

variable (htable : e.IsPlainTable documents)

include htable

/-- Fetching a document enters it at its address, and lets it wait with the part that the reference
points to. -/
theorem Collects.fetch {reference : Uri} {s s' : Survey} (hs : s.Collects e documents start)
    (h : Survey.fetch documents s reference = .ok s') : s'.Collects e documents start := by
  unfold Survey.fetch at h
  dsimp only at h
  -- A document that is known is not fetched again.
  split at h
  · cases h
    exact hs
  · split at h
    · next schema hschema =>
        obtain ⟨t, ht, -, haddress, hdocument⟩ := htable _ _ hschema
        have hlookup : documents.lookup (e.uri t) = some schema := haddress ▸ hschema
        have htame : IsTame e documents schema := .of_lookup haddresses ht hlookup hdocument
        obtain ⟨draft, hdraft, h⟩ := bind_eq_ok.1 h
        rw [hdocument.detect] at hdraft
        cases hdraft
        have hentered : Collects e documents start
            { s with
              registry := s.registry.addResource reference.document.text ⟨.draft7, schema⟩ } := by
          refine ⟨⟨fun base₀ hbase₀ => .tail _ (hs.registry.origin base₀ hbase₀),
            fun address resource hmem => ?_, hs.registry.anchors⟩, hs.waiting⟩
          rcases List.mem_cons.1 hmem with heq | hmem
          · cases heq
            exact .inr (.inr ⟨t, ⟨ht, rfl, hlookup, haddress ▸ Emitter.uri_mem_forms⟩,
              .inr (.inl haddress)⟩)
          · exact hs.registry.resources address resource hmem
        have hcollects := hentered.append htame reference.document
        split at h
        · cases h
          exact hcollects
        · next part hpart =>
            -- The part that the reference points to waits behind the document.
            obtain ⟨draft, hdraft, h⟩ := bind_eq_ok.1 h
            cases h
            obtain ⟨pointer, -, hpart⟩ := Option.bind_eq_some_iff.1 hpart
            rcases Pointer.eq_or_isPlain_of_find? hdocument.parts hpart with rfl | hplain
            · rw [hdocument.detect] at hdraft
              cases hdraft
              exact hcollects.append htame _
            · rw [Draft.detect_of_isPlain hplain] at hdraft
              cases hdraft
              exact hcollects.append (.of_isPlain hplain) _
    · cases h

/-- So do all rounds of the survey. -/
theorem Collects.run {rounds : Nat} {s s' : Survey} (hs : s.Collects e documents start)
    (h : Survey.run documents rounds s = .ok s') : s'.Collects e documents start := by
  induction rounds generalizing s with
  | zero =>
      cases h
      exact hs
  | succ rounds ih =>
      unfold Survey.run at h
      obtain ⟨visited, hvisited, h⟩ := bind_eq_ok.1 h
      have hcollects := hs.visitAll haddresses hvisited
      split at h
      · cases h
        exact hcollects
      · obtain ⟨fetched, hfetched, h⟩ := bind_eq_ok.1 h
        refine ih (foldlM_preserves (fun u _ b c hb hc => hb.fetch haddresses htable hc) ?_
          hfetched) h
        exact ⟨hcollects.registry, hcollects.waiting⟩

end Survey

/-- What is collected from a schema that is the document of a type or has no name. -/
theorem Registry.isCollected_collect {e : Emitter} {documents : List (String × Json)}
    (haddresses : e.HasAddresses) (htable : e.IsPlainTable documents) {start : Json} {r : Registry}
    (hstart : Survey.IsTame e documents start)
    (h : Registry.collect MetaSchema.registry documents ⟨.draft7, start⟩ = .ok r) :
    r.IsCollected e documents start := by
  unfold Registry.collect at h
  obtain ⟨base, hbase, h⟩ := bind_eq_ok.1 h
  unfold Registry.addDocument at h
  obtain ⟨s, hs, h⟩ := bind_eq_ok.1 h
  cases h
  refine (Survey.Collects.run haddresses htable ⟨⟨fun base₀ hbase₀ => ?_,
    fun address resource hmem => ?_, rfl⟩, ?_⟩ hs).registry
  · cases hbase.symm.trans hbase₀
    exact .head _
  · rcases List.mem_cons.1 hmem with heq | hmem
    · cases heq
      refine .inr ?_
      unfold Site.address at hbase
      dsimp only at hbase
      -- The schema is collected at the address of the root, or as the document of its type.
      rcases hstart.address with hnone | ⟨t, ht, hlookup, hsome⟩
      · rw [hnone] at hbase
        cases hbase
        exact .inl rfl
      · rw [hsome] at hbase
        exact .inr ⟨t, ⟨ht, rfl, hlookup, Emitter.text_mem_forms_of_ofText hbase⟩,
          .inl (by rw [hsome]; rfl)⟩
    · exact .inl hmem
  · rw [List.forall_mem_singleton]
    exact ⟨rfl, hstart⟩

end TypeCatalog
