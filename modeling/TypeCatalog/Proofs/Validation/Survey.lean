import TypeCatalog.Proofs.Validation.Document
import TypeCatalog.Validation.Build

/-!
# Documents that are collected

The documents that can be reached from a document of a batch are collected on top of those of the
schema language. `Registry.Holds` says what this gives: at each address there is a document of the
schema language, or the document of the type whose address it is. Every step of `Survey.run` keeps
it, since a schema inside a document has no name of its own and refers to types alone, and an
address that a document gives itself ends with the name of its type.

`Survey.run` calls `visitAll` and `fetch`, `visit` calls `noteAll` and `enqueue`, and `noteAll`
calls `note` for each reference. Each of them has one lemma that it keeps `Survey.Holds`.
`Emitter.Describes` is what the invariant asks of a document.
-/

set_option autoImplicit false

namespace TypeCatalog

open Result

/-- Whether a registry holds documents of types at addresses of the types, apart from the
documents of the schema language. -/
def Registry.Holds (e : Emitter) (meaning : String → Option Demand) (r : Registry) : Prop :=
  ∀ address resource, (address, resource) ∈ r.resources →
    (address, resource) ∈ MetaSchema.registry.resources
      ∨ resource.draft = .draft7
        ∧ ∃ t, IsAddressOf address t ∧ e.Describes meaning t resource.schema

namespace Survey

/-- Whether a survey has met documents of types alone: those in the registry, those that wait with
the schemas inside them, and those that references lead to. -/
structure Holds (e : Emitter) (meaning : String → Option Demand) (s : Survey) : Prop where
  registry : s.registry.Holds e meaning
  waiting : ∀ site ∈ s.waiting, site.resource.draft = .draft7
    ∧ (Plain e site.resource.schema ∨ ∃ t, e.Describes meaning t site.resource.schema)
  pending : ∀ u ∈ s.pending, u.fragment = none

variable {domain : String} {meaning : String → Option Demand}

/-- A reference to the schema language, or to a type. -/
def IsExpected (e : Emitter) (reference : String) : Prop :=
  Draft.isSpecification reference = true ∨ ∃ t, Name.IsTypeName t ∧ reference = e.uri t

section

variable (hweb : IsWebDomain domain)

include hweb

/-- Noting an expected reference keeps what holds. -/
theorem Holds.note {follow : Json → Survey → Except SchemaFault Survey} {base : Uri} {whole : Json}
    {s s' : Survey} {reference : String} (href : IsExpected (.ofDomain domain) reference)
    (hs : s.Holds (.ofDomain domain) meaning)
    (h : Survey.note follow base whole s reference = .ok s') :
    s'.Holds (.ofDomain domain) meaning := by
  unfold Survey.note at h
  split at h
  · cases h
    exact hs
  · next hnew =>
      rcases href with hspec | ⟨t, ht, rfl⟩
      · rw [hspec] at hnew
        exact absurd rfl hnew
      · dsimp only at h
        rw [hweb.isLocal_uri ht, if_neg Bool.false_ne_true] at h
        obtain ⟨u, hu, rfl⟩ := map_eq_ok.1 h
        refine ⟨hs.registry, hs.waiting, ?_⟩
        rw [List.forall_mem_cons]
        exact ⟨(hweb.resolve_uri ht hu).2.1, hs.pending⟩

/-- So does noting all references of a schema. -/
theorem Holds.noteAll {base : Uri} {schema : Json} {s s' : Survey}
    (href : ∀ k ∈ ["$ref", "$schema"], ∀ reference, schema.member? k = some (.string reference) →
      IsExpected (.ofDomain domain) reference)
    (hs : s.Holds (.ofDomain domain) meaning) (h : Survey.noteAll base schema s = .ok s') :
    s'.Holds (.ofDomain domain) meaning := by
  unfold Survey.noteAll at h
  split at h
  · cases h
    exact hs
  · unfold noteOf at h
    refine foldlM_preserves (fun reference hmem b c hb hc => ?_) hs h
    obtain ⟨k, hk, hvalue⟩ := List.mem_filterMap.1 hmem
    obtain ⟨v, hv, hstring⟩ := Option.bind_eq_some_iff.1 hvalue
    cases v with
    | string _ =>
        cases hstring
        exact hb.note hweb (href k hk reference hv) hc
    | _ => cases hstring

/-- What is noted of a plain schema are references to types. -/
theorem Holds.noteAll_plain {base : Uri} {schema : Json} (hplain : Plain (.ofDomain domain) schema)
    {s s' : Survey} (hs : s.Holds (.ofDomain domain) meaning)
    (h : Survey.noteAll base schema s = .ok s') :
    s'.Holds (.ofDomain domain) meaning := by
  obtain ⟨-, hschema, href, -⟩ := hplain
  refine hs.noteAll hweb (fun k hk reference hvalue => ?_) h
  rcases List.mem_pair.1 hk with rfl | rfl
  · exact .inr (href reference hvalue)
  · rw [hschema] at hvalue
    cases hvalue

/-- What is noted of a document itself is the version of the schema language. -/
theorem Holds.noteAll_document {base : Uri} {t : String} {schema : Json}
    (hdocument : (Emitter.ofDomain domain).Describes meaning t schema) {s s' : Survey}
    (hs : s.Holds (.ofDomain domain) meaning) (h : Survey.noteAll base schema s = .ok s') :
    s'.Holds (.ofDomain domain) meaning := by
  obtain ⟨header, demand, -, -, -, rfl⟩ := hdocument.demand
  refine hs.noteAll hweb (fun k hk reference hvalue => ?_) h
  rcases List.mem_pair.1 hk with rfl | rfl
  · rw [Emitter.member?_ref_demandSchema] at hvalue
    cases hvalue
  · rw [Emitter.member?_schema_demandSchema] at hvalue
    cases hvalue
    exact .inl (by decide)

/-- A plain schema may begin to wait. -/
theorem Holds.enqueue {base : Uri} {schema : Json} (hplain : Plain (.ofDomain domain) schema)
    {s s' : Survey} (hs : s.Holds (.ofDomain domain) meaning)
    (h : Survey.enqueue base .draft7 s schema = .ok s') : s'.Holds (.ofDomain domain) meaning := by
  unfold Survey.enqueue at h
  obtain ⟨draft, hdraft, h⟩ := bind_eq_ok.1 h
  rw [hplain.detect] at hdraft
  cases hdraft
  obtain ⟨entered, -, h⟩ := bind_eq_ok.1 h
  obtain ⟨noted, hnoted, h⟩ := bind_eq_ok.1 h
  cases h
  have hholds := hs.noteAll_plain hweb hplain hnoted
  refine ⟨hholds.registry, ?_, hholds.pending⟩
  rw [List.forall_mem_append, List.forall_mem_singleton]
  exact ⟨hholds.waiting, rfl, .inl hplain⟩

/-- Going through a schema enters it where it has an address, which is that of its type, and lets
the schemas inside it wait. -/
theorem Holds.visit {site : Site} {s s' : Survey} (hs : s.Holds (.ofDomain domain) meaning)
    (hdraft : site.resource.draft = .draft7)
    (hsite : Plain (.ofDomain domain) site.resource.schema
      ∨ ∃ t, (Emitter.ofDomain domain).Describes meaning t site.resource.schema)
    (h : Survey.visit s site = .ok s') : s'.Holds (.ofDomain domain) meaning := by
  obtain ⟨start, draft, schema⟩ := site
  cases hdraft
  unfold Survey.visit at h
  obtain ⟨base, hbase, h⟩ := bind_eq_ok.1 h
  obtain ⟨noted, hnoted, h⟩ := bind_eq_ok.1 h
  unfold Site.enter at hbase
  dsimp only at hbase hnoted h hsite
  rcases hsite with hplain | ⟨t, hdocument⟩
  -- A plain schema has no address, and enters nothing.
  · rw [hplain.ownAddress?] at hnoted hbase
    have hholds : noted.Holds (.ofDomain domain) meaning := by
      refine Holds.noteAll_plain hweb hplain ?_ hnoted
      exact ⟨hs.registry, hs.waiting, hs.pending⟩
    obtain ⟨-, -, -, hinside⟩ := hplain
    exact foldlM_preserves (fun x hx b c hb hc => hb.enqueue hweb (hinside x hx) hc) hholds h
  -- A document enters itself at an address of its type.
  · rw [hdocument.ownAddress? hweb] at hnoted hbase
    have hregistry : (s.registry.addResource base.text ⟨.draft7, schema⟩).Holds
        (.ofDomain domain) meaning := by
      intro address resource hmem
      rcases List.mem_cons.1 hmem with heq | hmem
      · cases heq
        exact .inr ⟨rfl, t, (hweb.resolve_uri hdocument.name hbase).1, hdocument⟩
      · exact hs.registry address resource hmem
    have hholds : noted.Holds (.ofDomain domain) meaning := by
      refine Holds.noteAll_document hweb hdocument ?_ hnoted
      exact ⟨hregistry, hs.waiting, hs.pending⟩
    exact foldlM_preserves
      (fun x hx b c hb hc => hb.enqueue hweb (hdocument.plain_of_mem_subschemas hx) hc) hholds h

/-- Going through all schemas that wait keeps what holds. -/
theorem Holds.visitAll {rounds : Nat} {s s' : Survey} (hs : s.Holds (.ofDomain domain) meaning)
    (h : Survey.visitAll rounds s = .ok s') : s'.Holds (.ofDomain domain) meaning := by
  induction rounds generalizing s with
  | zero =>
      cases h
      exact hs
  | succ rounds ih =>
      unfold Survey.visitAll at h
      split at h
      · cases h
        exact hs
      · next site rest hwaiting =>
          obtain ⟨visited, hvisited, h⟩ := bind_eq_ok.1 h
          have hall := hs.waiting
          rw [hwaiting, List.forall_mem_cons] at hall
          refine ih (Holds.visit hweb ?_ hall.1.1 hall.1.2 hvisited) h
          exact ⟨hs.registry, hall.2, hs.pending⟩

variable {documents : List (String × Json)}
  (hdocuments : ∀ address schema, documents.lookup address = some schema →
    ∃ t, address = (Emitter.ofDomain domain).uri t
      ∧ (Emitter.ofDomain domain).Describes meaning t schema)

include hdocuments

omit hweb in
/-- So does fetching the document of a reference. -/
theorem Holds.fetch {reference : Uri} (hreference : reference.fragment = none) {s s' : Survey}
    (hs : s.Holds (.ofDomain domain) meaning)
    (h : Survey.fetch documents s reference = .ok s') : s'.Holds (.ofDomain domain) meaning := by
  unfold Survey.fetch at h
  dsimp only at h
  split at h
  · cases h
    exact hs
  · split at h
    · next schema hschema =>
        obtain ⟨t, haddress, hdocument⟩ := hdocuments _ _ hschema
        rw [hdocument.detect, hreference] at h
        cases h
        refine ⟨?_, ?_, hs.pending⟩
        · intro address resource hmem
          rcases List.mem_cons.1 hmem with heq | hmem
          · cases heq
            refine .inr ⟨rfl, t, ?_, hdocument⟩
            rw [haddress]
            exact Emitter.isAddressOf_uri _ t
          · exact hs.registry address resource hmem
        · rw [List.forall_mem_append, List.forall_mem_singleton]
          exact ⟨hs.waiting, rfl, .inr ⟨t, hdocument⟩⟩
    · cases h

/-- And so do all rounds. -/
theorem Holds.run {rounds : Nat} {s s' : Survey} (hs : s.Holds (.ofDomain domain) meaning)
    (h : Survey.run documents rounds s = .ok s') : s'.Holds (.ofDomain domain) meaning := by
  induction rounds generalizing s with
  | zero =>
      cases h
      exact hs
  | succ rounds ih =>
      unfold Survey.run at h
      obtain ⟨visited, hvisited, h⟩ := bind_eq_ok.1 h
      have hholds := hs.visitAll hweb hvisited
      split at h
      · cases h
        exact hholds
      · obtain ⟨fetched, hfetched, h⟩ := bind_eq_ok.1 h
        refine ih (foldlM_preserves (fun u hu b c hb hc => ?_) ?_ hfetched) h
        · exact hb.fetch hdocuments (hholds.pending u (List.mem_reverse.1 hu)) hc
        · exact ⟨hholds.registry, hholds.waiting, nofun⟩

/-- What is collected from a document of the batch are documents of the batch, apart from those of
the schema language. -/
theorem holds_collect {t : String} {schema : Json} {r : Registry}
    (hdocument : (Emitter.ofDomain domain).Describes meaning t schema)
    (h : Registry.collect MetaSchema.registry documents ⟨.draft7, schema⟩ = .ok r) :
    r.Holds (.ofDomain domain) meaning := by
  unfold Registry.collect at h
  obtain ⟨base, hbase, h⟩ := bind_eq_ok.1 h
  unfold Registry.addDocument at h
  obtain ⟨s, hs, h⟩ := bind_eq_ok.1 h
  cases h
  unfold Site.address at hbase
  dsimp only at hbase
  rw [hdocument.ownAddress? hweb] at hbase
  refine (Holds.run hweb hdocuments ?_ hs).registry
  refine ⟨fun address resource hmem => ?_, ?_, nofun⟩
  · rcases List.mem_cons.1 hmem with heq | hmem
    · cases heq
      exact .inr ⟨rfl, t, hweb.ofText_uri hdocument.name hbase, hdocument⟩
    · exact .inl hmem
  · rw [List.forall_mem_singleton]
    exact ⟨rfl, .inr ⟨t, hdocument⟩⟩

end

end Survey

end TypeCatalog
