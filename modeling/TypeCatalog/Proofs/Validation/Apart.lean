import TypeCatalog.Proofs.Uri.Regular
import TypeCatalog.Proofs.Validation.Course
import TypeCatalog.Validation.Engine

/-!
# Documents that are not referred to

A validator is read from a document and from those that it can reach. What stands in the table of
documents besides makes no difference to it, so the documents of some types may be put in or taken
out where no other document refers to these types (`Validator.build_congr`).

No validator gets to their addresses. Below a domain without a number sign, what a reference to a
type means is an address of this type at every base that is met. Below a domain with a number sign
no address of a type can be fetched at all, since documents are fetched by addresses without a
fragment.

`Survey.Course.away` is the course that a survey takes when no base is an address of one of the
types, and `IsClosed` asks that each keyword of `Survey.Course.keywords` keeps it. The proof goes by
these keywords, `$ref` and `$schema`, and splits at whether the domain has a number sign.
-/

set_option autoImplicit false

namespace TypeCatalog

open Result

/-- A schema in the version of documents that refers to types of some kind alone, as do the schemas
inside it. -/
inductive RefersWithin (e : Emitter) (T : String → Prop) : Json → Prop where
  | mk {v : Json} (hversion : ∀ s, v.member? "$schema" = some (.string s) → s = Emitter.draft)
      (href : ∀ s, v.member? "$ref" = some (.string s) → ∃ t, T t ∧ s = e.uri t)
      (hinside : ∀ x ∈ Draft.draft7.subschemas v, RefersWithin e T x) : RefersWithin e T v

namespace RefersWithin

variable {e : Emitter} {T : String → Prop} {v : Json}

/-- A plain value refers within any set that has the types it refers to. -/
theorem of_plain (h : Plain e v) (hT : ∀ t, Refers e t v → T t) : RefersWithin e T v := by
  induction h with
  | @mk v hid hschema href hinside ih =>
      refine .mk ?_ ?_ fun x hx => ih x hx fun t ht => hT t (.inside hx ht)
      · intro s hs
        rw [hschema] at hs
        cases hs
      · intro s hs
        obtain ⟨t, -, rfl⟩ := href s hs
        exact ⟨t, hT t (.here hs), rfl⟩

/-- The document of a type refers to what the type asks for. -/
theorem demandSchema {t : String} {header : Header} {demand : Demand} (ht : Name.IsTypeName t)
    (hwellFormed : demand.WellFormed) (htargets : ∀ u ∈ demand.targets, Name.IsTypeName u ∧ T u) :
    RefersWithin e T (e.demandSchema t header demand) := by
  have hdocument : e.Describes (fun _ => some demand) t (e.demandSchema t header demand) :=
    ⟨ht, header, demand, rfl, hwellFormed, fun u hu => (htargets u hu).1, rfl⟩
  refine .mk (fun s hs => ?_) (fun s hs => ?_) fun x hx => ?_
  · rw [Emitter.member?_schema_demandSchema] at hs
    cases hs
    rfl
  · rw [Emitter.member?_ref_demandSchema] at hs
    cases hs
  · refine .of_plain (hdocument.plain_of_mem_subschemas hx) fun u hu => ?_
    exact (htargets u ((hdocument.refersInside_iff rfl).1 ⟨x, hx, hu⟩)).2

/-- The schema of a list refers to the type of its items only. -/
theorem listSchema {t : String} (ht : T t) : RefersWithin e T (Engine.listSchema (e.uri t)) := by
  refine .mk (fun s hs => ?_) nofun fun x hx => ?_
  · cases hs
    rfl
  · obtain rfl := List.mem_singleton.1
      (show x ∈ [Json.object [("$ref", .string (e.uri t))]] from hx)
    refine .mk nofun (fun s hs => ?_) nofun
    cases hs
    exact ⟨t, ht, rfl⟩

/-- What refers within a set names the draft that all documents name, or none. -/
theorem detect (h : RefersWithin e T v) : Draft.draft7.detect v = .ok .draft7 := by
  obtain ⟨hversion, -, -⟩ := h
  exact Draft.detect_of_version hversion

end RefersWithin

/-! ## Bases -/

namespace Site

/-- The base of a schema without an address is regular. -/
theorem isRegular_rootBase : rootBase.IsRegular := by
  refine ⟨?_, ?_, ⟨.plain (by decide) .nil, by decide⟩, nofun⟩
  · rintro cs hcs
    cases hcs
    decide
  · rintro a ha
    cases ha
    decide

/-- What is met at a regular base is regular. -/
theorem isRegular_of_resolve {base u : Uri} {reference : String} (hbase : base.IsRegular)
    (h : resolve base reference = .ok u) : u.IsRegular := by
  unfold resolve at h
  split at h
  · cases h
    exact hbase
  · split at h
    · cases h
    · next r hparse =>
        unfold resolveAt at h
        split at h
        · cases h
        · next v hresolve =>
            cases h
            exact (hbase.resolve (Uri.isRegular_of_parse hparse) hresolve).normalized

/-- Entering a schema at a regular base gives a regular base. -/
theorem isRegular_of_enter {base u : Uri} {resource : Resource} (hbase : base.IsRegular)
    (h : enter base resource = .ok u) : u.IsRegular := by
  unfold enter at h
  split at h
  · cases h
    exact hbase
  · exact isRegular_of_resolve hbase h

/-- The address of a schema by itself is regular. -/
theorem isRegular_of_address {u : Uri} {resource : Resource} (h : address resource = .ok u) :
    u.IsRegular := by
  unfold address at h
  split at h
  · cases h
    exact isRegular_rootBase
  · unfold ofText at h
    split at h
    · cases h
    · next r hparse =>
        have hr := (Uri.isRegular_of_parse hparse).normalized
        split at h
        · cases h
          exact hr
        · unfold resolveAt at h
          split at h
          · cases h
          · next v hresolve =>
              cases h
              exact (isRegular_rootBase.resolve hr hresolve).normalized

end Site

/-! ## Two tables -/

/-- Whether two tables of documents differ at most at the addresses of some types, to which no
document of the first one refers. -/
structure Emitter.DiffersWithin (e : Emitter) (own : List String)
    (documents documents' : List (String × Json)) : Prop where
  names : ∀ t ∈ own, Name.IsTypeName t
  agree : ∀ address, (∀ t ∈ own, address ≠ e.uri t) →
    documents'.lookup address = documents.lookup address
  within : ∀ address v, documents.lookup address = some v →
    RefersWithin e (fun t => Name.IsTypeName t ∧ t ∉ own) v

section

variable {domain : String} {own : List String} {documents documents' : List (String × Json)}

/-- An address below a domain with a number sign has it, too. -/
theorem number_sign_mem_uri (hsign : '#' ∈ domain.toList) (t : String) :
    '#' ∈ ((Emitter.ofDomain domain).uri t).toList := by
  obtain ⟨front, back, hdomain⟩ := List.append_of_mem hsign
  rw [Emitter.toList_uri_ofDomain, hdomain, Name.trimEndSlashes_append (by decide)]
  exact List.mem_append_left _ (List.mem_append_right _ List.mem_cons_self)

/-- What a survey meets that begins with a document which refers to other types than some. -/
def Survey.Course.away (domain : String) (own : List String) : Survey.Course where
  base := Uri.IsRegular
  target u := u.IsRegular ∧ ('#' ∉ domain.toList → u.fragment = none)
    ∧ ∀ t ∈ own, u.document.text ≠ (Emitter.ofDomain domain).uri t
  schema draft v := '#' ∈ domain.toList ∨ draft = .draft7
    ∧ RefersWithin (.ofDomain domain) (fun t => Name.IsTypeName t ∧ t ∉ own) v

/-- Where there is no number sign in the domain, what is referred to is the address of another type.
-/
theorem Site.away_of_resolve (hsign : '#' ∉ domain.toList) (hnames : ∀ t ∈ own, Name.IsTypeName t)
    {base u : Uri} (hbase : base.IsRegular) {t : String} (ht : Name.IsTypeName t) (hnot : t ∉ own)
    (h : Site.resolve base.document ((Emitter.ofDomain domain).uri t) = .ok u) :
    u.fragment = none ∧ ∀ t' ∈ own, u.document.text ≠ (Emitter.ofDomain domain).uri t' := by
  obtain ⟨haddress, hfragment⟩ :=
    Emitter.isAddressOf_of_resolve hsign ht hbase.document.path.octets h
  have hself : u.document = u := by
    unfold Uri.document
    rw [← hfragment]
  refine ⟨hfragment, fun t' ht' htext => hnot ?_⟩
  rw [hself] at htext
  rw [htext] at haddress
  rwa [haddress.unique ht (hnames t' ht') (Emitter.isAddressOf_uri _ t')]

/-- Such a survey gets nowhere else. -/
theorem Emitter.DiffersWithin.isClosed
    (h : (Emitter.ofDomain domain).DiffersWithin own documents documents') :
    (Survey.Course.away domain own).IsClosed documents := by
  have hreference {k reference : String} {v : Json}
      (hv : RefersWithin (.ofDomain domain) (fun t => Name.IsTypeName t ∧ t ∉ own) v)
      (hk : k ∈ Survey.Course.keywords) (hvalue : v.member? k = some (.string reference)) :
      reference = Emitter.draft
        ∨ ∃ t, (Name.IsTypeName t ∧ t ∉ own) ∧ reference = (Emitter.ofDomain domain).uri t := by
    obtain ⟨hversion, href, -⟩ := hv
    rcases List.mem_pair.1 hk with rfl | rfl
    · exact .inr (href _ hvalue)
    · exact .inl (hversion _ hvalue)
  refine ⟨?_, ?_, ?_, ?_, ?_, ?_⟩
  · exact fun hbase _ hentered => Site.isRegular_of_enter hbase hentered
  -- A reference leads to a regular address, which is none of the types that differ.
  · intro base draft v k reference u hbase hv hk hvalue hspecification hlocal hu
    have hregular := Site.isRegular_of_resolve hbase.document hu
    by_cases hsign : '#' ∈ domain.toList
    · refine ⟨hregular, fun hnot => absurd hsign hnot, fun t _ htext => ?_⟩
      have hmem := number_sign_mem_uri hsign t
      rw [← htext] at hmem
      exact hregular.number_sign_notMem_text hmem
    · obtain ⟨-, hv⟩ := hv.resolve_left hsign
      rcases hreference hv hk hvalue with rfl | ⟨t, ⟨ht, hnot⟩, rfl⟩
      · exact absurd hspecification (by decide)
      · obtain ⟨hfragment, haway⟩ := Site.away_of_resolve hsign h.names hbase ht hnot hu
        exact ⟨hregular, fun _ => hfragment, haway⟩
  -- A reference that stays inside leads to a part of the same document.
  · intro draft whole v k reference part hwhole hv hk hvalue hlocal hpart
    by_cases hsign : '#' ∈ domain.toList
    · exact .inl hsign
    · -- No reference stays inside the schema.
      obtain ⟨-, hv⟩ := hv.resolve_left hsign
      rcases hreference hv hk hvalue with rfl | ⟨t, ⟨ht, -⟩, rfl⟩
      · exact absurd hlocal (by decide)
      · rw [Emitter.isLocal_uri_ofDomain hsign ht] at hlocal
        cases hlocal
  · intro draft draft' v x hv hx hdetect
    refine hv.imp_right ?_
    rintro ⟨rfl, hwithin⟩
    obtain ⟨-, -, hinside⟩ := hwithin
    have hx := hinside x hx
    rw [hx.detect] at hdetect
    cases hdetect
    exact ⟨rfl, hx⟩
  -- A document that is fetched is the same in both tables.
  · intro u v draft hu hv hdetect
    refine ⟨hu.1.document, ?_⟩
    by_cases hsign : '#' ∈ domain.toList
    · exact .inl hsign
    · have hwithin := h.within _ _ hv
      rw [hwithin.detect] at hdetect
      cases hdetect
      exact .inr ⟨rfl, hwithin⟩
  -- No part of a document is asked for, as no address has a fragment.
  · intro u v part draft hu hv hpart hdetect
    refine ⟨hu.1, ?_⟩
    by_cases hsign : '#' ∈ domain.toList
    · exact .inl hsign
    · rw [hu.2.1 hsign] at hpart
      cases hpart

/-- A validator of a document that refers to other types is the same, whatever stands at the
addresses of the types that nothing refers to. -/
theorem Validator.build_congr (h : (Emitter.ofDomain domain).DiffersWithin own documents documents')
    {v : Json} (hv : RefersWithin (.ofDomain domain) (fun t => Name.IsTypeName t ∧ t ∉ own) v)
    (formats : List Format) (checksFormats : Bool) :
    Validator.build documents' formats checksFormats v
      = Validator.build documents formats checksFormats v := by
  unfold Validator.build
  dsimp only
  rw [Registry.collect_congr h.isClosed (fun u hu => h.agree _ hu.2.2)
    (fun base hbase => Site.isRegular_of_address hbase) (.inr ⟨rfl, hv⟩)]

/-- What becomes of the types of two engines that differ in nothing else. -/
theorem Engine.compile_congr {engine engine' : Engine}
    (h : (Emitter.ofDomain domain).DiffersWithin own engine.documents engine'.documents)
    (hformats : engine'.formats = engine.formats)
    (hchecks : engine'.checksFormats = engine.checksFormats) {name : String}
    (haddress : engine'.addresses.lookup name = engine.addresses.lookup name)
    (huri : ∀ uri ∈ engine.addresses.lookup name, uri = (Emitter.ofDomain domain).uri name)
    (hname : Name.IsTypeName name) (hnot : name ∉ own) :
    engine'.compile name = engine.compile name := by
  unfold Engine.compile
  rw [haddress]
  cases hlookup : engine.addresses.lookup name with
  | none => rfl
  | some uri =>
      obtain rfl := huri uri hlookup
      have haway : ∀ t ∈ own,
          (Emitter.ofDomain domain).uri name ≠ (Emitter.ofDomain domain).uri t :=
        fun t ht heq => hnot (Emitter.uri_injective _ heq ▸ ht)
      dsimp only
      rw [h.agree _ haway]
      cases hdocument : engine.documents.lookup ((Emitter.ofDomain domain).uri name) with
      | none => rfl
      | some v =>
          dsimp only
          unfold Engine.build
          rw [hformats, hchecks, Validator.build_congr h (h.within _ _ hdocument),
            Validator.build_congr h (RefersWithin.listSchema ⟨hname, hnot⟩)]

end

end TypeCatalog
