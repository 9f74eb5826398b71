import TypeCatalog.Proofs.Uri.Fragments
import TypeCatalog.Proofs.Validation.Collected

/-!
# References to documents that are missing

Before a validator is read from a document, the documents are collected that it refers to, and those
that these refer to. The collection fails at the first document that is not there. So when it does
not fail, there is something at the address of each reference that is seen on the way
(`Registry.isHeld_of_collect`): a document of the schema language, the document itself, or another
one that was at hand. What a reference to a type leads to is at an address of the type, whatever
fragment it has; so it is there only if there is a document of the type
(`Emitter.exists_lookup_of_build`).

The first round sees the references of the document (`Mentions`). It goes through all schemas inside
the document and notes what they refer to; the documents that were noted are fetched right after it.
The invariant is `Survey.Seeks`: the reference is pending, or it stands inside a schema that waits.

`Survey.note` is where a reference becomes pending, and `Survey.fetch` where the collection fails.
`Remembers` says that a reference which was met is still pending, `Pends` that it is pending, and
both are kept by the functions in between.
-/

set_option autoImplicit false

namespace TypeCatalog

open Result

/-- Whether a schema, or one inside it, has a text as its reference. -/
inductive Mentions (reference : String) : Json → Prop where
  | here {v : Json} (h : v.member? "$ref" = some (.string reference)) : Mentions reference v
  | inside {v x : Json} (hx : x ∈ Draft.draft7.subschemas v) (h : Mentions reference x) :
      Mentions reference v

/-- What a schema refers to is a text of a reference in it. -/
theorem Refers.mentions {e : Emitter} {t : String} {v : Json} (h : Refers e t v) :
    Mentions (e.uri t) v := by
  induction h with
  | here h => exact .here h
  | inside hx _ ih => exact .inside hx ih

/-- What holds of the addresses of a registry goes on to hold if it does of the one that is added.
-/
theorem Registry.forall_addResource {held : String → Prop} {r : Registry} {address : String}
    (resource : Resource) (hr : ∀ a, (r.resource? a).isSome = true → held a) (h : held address) :
    ∀ a, ((r.addResource address resource).resource? a).isSome = true → held a := by
  intro a ha
  by_cases heq : a = address
  · rwa [heq]
  · rw [r.resource?_addResource_of_ne _ heq] at ha
    exact hr a ha

namespace Survey

/-! ## Noting a reference -/

/-- Whether what a reference means at a base is pending. -/
def Pends (base : Uri) (reference : String) (s : Survey) : Prop :=
  ∃ u ∈ s.pending, Site.resolve base.document reference = .ok u

/-- Whether a reference is pending once it was met. -/
def Remembers (base : Uri) (reference : String) (s : Survey) : Prop :=
  (base.text, reference) ∈ s.met → s.Pends base reference

/-- What is pending stays so when more is noted. -/
theorem Pends.notes {base : Uri} {reference : String} {s s' : Survey} (hs : s.Pends base reference)
    (h : Notes s s') : s'.Pends base reference := by
  obtain ⟨u, hu, hresolve⟩ := hs
  exact ⟨u, h.pending hu, hresolve⟩

section

variable {base : Uri} {reference : String} (hlocal : Fragment.isLocal reference = false)

include hlocal

/-- Noting another reference forgets none. -/
theorem Remembers.note {follow : Json → Survey → Except SchemaFault Survey}
    (hfollow : ∀ part s s', s.Remembers base reference → follow part s = .ok s' →
      s'.Remembers base reference) {whole : Json} {s s' : Survey} {other : String}
    (hs : s.Remembers base reference) (h : Survey.note follow base whole s other = .ok s') :
    s'.Remembers base reference := by
  unfold Survey.note at h
  split at h
  · cases h
    exact hs
  · dsimp only at h
    split at h
    · next hother =>
        -- A reference that stays inside the schema is another one.
        have hmet : Remembers base reference { s with met := (base.text, other) :: s.met } := by
          intro hmem
          refine hs ((List.mem_cons.1 hmem).resolve_left fun heq => ?_)
          rw [← (Prod.mk.inj heq).2, hlocal] at hother
          cases hother
        split at h
        · cases h
          exact hmet
        · exact hfollow _ _ _ hmet h
    · obtain ⟨u, hu, rfl⟩ := map_eq_ok.1 h
      intro hmem
      rcases List.mem_cons.1 hmem with heq | hmem
      · rw [(Prod.mk.inj heq).2]
        exact ⟨u, List.mem_cons_self, hu⟩
      · obtain ⟨v, hv, hresolve⟩ := hs hmem
        exact ⟨v, .tail _ hv, hresolve⟩

/-- Nor does noting what a part refers to. -/
theorem Remembers.noteOf {whole : Json} {rounds : Nat} {part : Json} {s s' : Survey}
    (hs : s.Remembers base reference) (h : Survey.noteOf base whole rounds part s = .ok s') :
    s'.Remembers base reference := by
  induction rounds generalizing part s s' with
  | zero =>
      cases h
      exact hs
  | succ rounds ih =>
      unfold Survey.noteOf at h
      exact foldlM_preserves (fun other _ b c hb hc => hb.note hlocal (fun _ _ _ => ih) hc) hs h

/-- Nor does noting all references of a schema. -/
theorem Remembers.noteAll {schema : Json} {s s' : Survey} (hs : s.Remembers base reference)
    (h : Survey.noteAll base schema s = .ok s') : s'.Remembers base reference := by
  unfold Survey.noteAll at h
  split at h
  · cases h
    exact hs
  · exact hs.noteOf hlocal h

/-- The reference of a schema itself is pending when the references of the schema were noted. -/
theorem Remembers.pends_of_noteAll (hspecification : Draft.isSpecification reference = false)
    (hscheme : base.scheme ≠ some "urn".toList) {schema : Json} {s s' : Survey}
    (hs : s.Remembers base reference)
    (href : schema.member? "$ref" = some (.string reference))
    (h : Survey.noteAll base schema s = .ok s') : s'.Pends base reference := by
  unfold Survey.noteAll at h
  rw [if_neg hscheme] at h
  unfold Survey.noteOf at h
  have htexts : ["$ref", "$schema"].filterMap (fun k => (schema.member? k).bind Json.string?)
      = reference :: ["$schema"].filterMap (fun k => (schema.member? k).bind Json.string?) := by
    rw [List.filterMap_cons, href]
    rfl
  -- It is noted first, and what is noted after it leaves it pending.
  rw [htexts, List.foldlM_cons] at h
  obtain ⟨noted, hnoted, h⟩ := bind_eq_ok.1 h
  have hpends : noted.Pends base reference := by
    unfold Survey.note at hnoted
    rw [hspecification, Bool.false_or] at hnoted
    split at hnoted
    · next hmet =>
        cases hnoted
        exact hs (List.contains_iff_mem.1 hmet)
    · dsimp only at hnoted
      rw [hlocal, if_neg Bool.false_ne_true] at hnoted
      obtain ⟨u, hu, rfl⟩ := map_eq_ok.1 hnoted
      exact ⟨u, List.mem_cons_self, hu⟩
  exact foldlM_preserves (fun other _ b c hb hc =>
    hb.notes (notes_note (fun _ _ _ => notes_noteOf) hc)) hpends h

end

/-! ## Schemas that wait -/

/-- Whether a schema is gone through at a base, as one that has no names inside. It may have the
name that the base is. -/
structure IsAt (base : Uri) (site : Site) : Prop where
  draft : site.resource.draft = .draft7
  parts : site.resource.schema.HasPlainParts fun _ => True
  enter : Site.enter site.base site.resource = .ok base

/-- A plain schema stands at the base of what is around it. -/
theorem isAt_of_isPlain {base : Uri} {x : Json} (h : x.IsPlain fun _ => True) :
    IsAt base ⟨base, ⟨.draft7, x⟩⟩ :=
  ⟨rfl, h.hasPlainParts, Site.enter_of_isPlain h base⟩

/-- What holds while a reference is looked for in the first round: it is pending or stands inside a
schema that waits, and there is a document at none but some addresses. -/
structure Seeks (base : Uri) (reference : String) (held : String → Prop) (s : Survey) : Prop where
  remembers : s.Remembers base reference
  covers : s.Pends base reference ∨ ∃ site ∈ s.waiting, Mentions reference site.resource.schema
  waiting : ∀ site ∈ s.waiting, IsAt base site
  registry : ∀ address, (s.registry.resource? address).isSome = true → held address

section

variable {base : Uri} {reference : String} {held : String → Prop}
  (hlocal : Fragment.isLocal reference = false)

include hlocal

/-- Schemas inside another one wait after what they refer to was noted. -/
theorem Remembers.enqueueAll {xs : List Json} (hxs : ∀ x ∈ xs, x.IsPlain fun _ => True)
    {s s' : Survey} (hs : s.Remembers base reference)
    (h : xs.foldlM (Survey.enqueue base .draft7) s = .ok s') :
    s'.Remembers base reference ∧ s'.registry = s.registry ∧ s.pending ⊆ s'.pending
      ∧ s'.waiting = s.waiting ++ xs.map fun x => ⟨base, ⟨.draft7, x⟩⟩ := by
  induction xs generalizing s with
  | nil =>
      cases h
      exact ⟨hs, rfl, List.Subset.refl _, (List.append_nil _).symm⟩
  | cons x xs ih =>
      rw [List.forall_mem_cons] at hxs
      rw [List.foldlM_cons] at h
      obtain ⟨s₁, h₁, h⟩ := bind_eq_ok.1 h
      unfold Survey.enqueue at h₁
      obtain ⟨draft, hdraft, h₁⟩ := bind_eq_ok.1 h₁
      -- A plain schema is of the draft and at the base of the schema around it.
      rw [Draft.detect_of_isPlain hxs.1] at hdraft
      cases hdraft
      obtain ⟨entered, hentered, h₁⟩ := bind_eq_ok.1 h₁
      rw [Site.enter_of_isPlain hxs.1] at hentered
      cases hentered
      obtain ⟨noted, hnoted, h₁⟩ := bind_eq_ok.1 h₁
      cases h₁
      have hnotes := notes_noteAll hnoted
      have hnoted' : noted.Remembers base reference := hs.noteAll hlocal hnoted
      have hnext : Remembers base reference
          { noted with waiting := noted.waiting ++ [⟨base, ⟨.draft7, x⟩⟩] } := hnoted'
      obtain ⟨hremembers, hregistry, hpending, hwaiting⟩ := ih hxs.2 hnext h
      refine ⟨hremembers, hregistry.trans hnotes.registry,
        List.Subset.trans hnotes.pending hpending, ?_⟩
      rw [hwaiting, hnotes.waiting, List.append_assoc]
      rfl

variable (hspecification : Draft.isSpecification reference = false)
  (hscheme : base.scheme ≠ some "urn".toList) (hheld : held base.text)

include hspecification hscheme hheld

/-- Going through a schema that waits finds the reference in it, or lets the schema wait that holds
the reference. -/
theorem Seeks.visit {site : Site} {rest : List Site} {s s' : Survey}
    (hs : s.Seeks base reference held) (hwaiting : s.waiting = site :: rest)
    (h : Survey.visit { s with waiting := rest } site = .ok s') :
    s'.Seeks base reference held
      ∧ s'.waiting = rest ++ (Draft.draft7.subschemas site.resource.schema).map
        fun x => ⟨base, ⟨.draft7, x⟩⟩ := by
  have hall := hs.waiting
  rw [hwaiting, List.forall_mem_cons] at hall
  obtain ⟨⟨hdraft, hparts, henter⟩, hrest⟩ := hall
  obtain ⟨begun, draft, schema⟩ := site
  cases hdraft
  unfold Survey.visit at h
  dsimp only at h hparts henter
  obtain ⟨entered, hentered, h⟩ := bind_eq_ok.1 h
  cases henter.symm.trans hentered
  obtain ⟨noted, hnoted, h⟩ := bind_eq_ok.1 h
  have hplain : ∀ x ∈ Draft.draft7.subschemas schema, x.IsPlain fun _ => True :=
    fun x hx => Draft.isPlain_of_mem_subschemas hparts _ hx
  have hnotes := notes_noteAll hnoted
  have hremembers : Remembers base reference { s with
      waiting := rest
      registry := (if (Draft.draft7.ownAddress? schema).isSome then
        s.registry.addResource base.text ⟨.draft7, schema⟩ else s.registry).addAnchors base.text
          ⟨.draft7, schema⟩ } := hs.remembers
  obtain ⟨hremembers', hregistry, hpending, hwaiting'⟩ :=
    (hremembers.noteAll hlocal hnoted).enqueueAll hlocal hplain h
  rw [hnotes.waiting] at hwaiting'
  refine ⟨⟨hremembers', ?_, ?_, ?_⟩, hwaiting'⟩
  · -- The reference is the schema's own, or it is in one of those inside it, or in another one.
    rcases hs.covers with ⟨u, hu, hresolve⟩ | ⟨other, hother, hmentions⟩
    · exact .inl ⟨u, hpending (hnotes.pending hu), hresolve⟩
    · rw [hwaiting']
      rw [hwaiting] at hother
      rcases List.mem_cons.1 hother with rfl | hother
      · cases hmentions with
        | here href =>
            obtain ⟨u, hu, hresolve⟩ :=
              hremembers.pends_of_noteAll hlocal hspecification hscheme href hnoted
            exact .inl ⟨u, hpending hu, hresolve⟩
        | inside hx hmentions =>
            exact .inr ⟨_, List.mem_append_right _ (List.mem_map_of_mem hx), hmentions⟩
      · exact .inr ⟨other, List.mem_append_left _ hother, hmentions⟩
  · rw [hwaiting', List.forall_mem_append]
    refine ⟨hrest, fun site hsite => ?_⟩
    obtain ⟨x, hx, rfl⟩ := List.mem_map.1 hsite
    exact isAt_of_isPlain (hplain x hx)
  · rw [hregistry, hnotes.registry]
    intro address hsome
    have hsome : ((if (Draft.draft7.ownAddress? schema).isSome then
        s.registry.addResource base.text ⟨.draft7, schema⟩
          else s.registry).resource? address).isSome = true := hsome
    split at hsome
    · exact Registry.forall_addResource _ hs.registry hheld address hsome
    · exact hs.registry address hsome

/-- Rounds do not run out before the reference is pending. -/
theorem Seeks.visitAll {rounds : Nat} {s s' : Survey} (hs : s.Seeks base reference held)
    (hrounds : s.size < rounds) (h : Survey.visitAll rounds s = .ok s') :
    s'.Seeks base reference held ∧ s'.waiting = [] := by
  induction rounds generalizing s with
  | zero => exact absurd hrounds (Nat.not_lt_zero _)
  | succ rounds ih =>
      unfold Survey.visitAll at h
      split at h
      · next hwaiting =>
          cases h
          exact ⟨hs, hwaiting⟩
      · next site rest hwaiting =>
          obtain ⟨visited, hvisited, h⟩ := bind_eq_ok.1 h
          obtain ⟨hseeks, hwaiting'⟩ :=
            hs.visit hlocal hspecification hscheme hheld hwaiting hvisited
          refine ih hseeks ?_ h
          -- The schemas inside count for less than the schema that has been gone through.
          have hcount := Draft.draft7.sum_count_subschemas site.resource.schema
          rw [size_eq, hwaiting, List.map_cons, List.sum_cons] at hrounds
          rw [size_eq, hwaiting', List.map_append, List.sum_append, List.map_map]
          have hsum : (((Draft.draft7.subschemas site.resource.schema).map
              ((fun site : Site => site.resource.schema.count) ∘
                fun x => ⟨base, ⟨.draft7, x⟩⟩)).sum)
                = ((Draft.draft7.subschemas site.resource.schema).map Json.count).sum := rfl
          omega

end

/-! ## Documents that were noted -/

section

variable {documents : List (String × Json)} {held : String → Prop}
  (hdocuments : ∀ address, (documents.lookup address).isSome = true → held address)

include hdocuments

/-- Fetching a document fails when there is none at its address. -/
theorem held_of_fetch {u : Uri} {s s' : Survey}
    (hs : ∀ address, (s.registry.resource? address).isSome = true → held address)
    (h : Survey.fetch documents s u = .ok s') :
    held u.document.text
      ∧ ∀ address, (s'.registry.resource? address).isSome = true → held address := by
  unfold Survey.fetch at h
  dsimp only at h
  split at h
  -- The document was there, or it is taken from the table.
  · next hsome =>
      cases h
      exact ⟨hs _ hsome, hs⟩
  · split at h
    · next schema hschema =>
        have hheld : held u.document.text := hdocuments _ (by rw [hschema]; rfl)
        obtain ⟨draft, -, h⟩ := bind_eq_ok.1 h
        have hregistry : s'.registry = s.registry.addResource u.document.text ⟨draft, schema⟩ := by
          split at h
          · cases h
            rfl
          · obtain ⟨_, -, h⟩ := bind_eq_ok.1 h
            cases h
            rfl
        rw [hregistry]
        exact ⟨hheld, Registry.forall_addResource _ hs hheld⟩
    · cases h

/-- So it is with all that is pending. -/
theorem held_of_fetchAll {us : List Uri} {s s' : Survey}
    (hs : ∀ address, (s.registry.resource? address).isSome = true → held address)
    (h : us.foldlM (Survey.fetch documents) s = .ok s') : ∀ u ∈ us, held u.document.text := by
  induction us generalizing s with
  | nil => exact nofun
  | cons u us ih =>
      rw [List.foldlM_cons] at h
      obtain ⟨s₁, h₁, h⟩ := bind_eq_ok.1 h
      obtain ⟨hheld, hs₁⟩ := held_of_fetch hdocuments hs h₁
      exact List.forall_mem_cons.2 ⟨hheld, ih hs₁ h⟩

/-- The first round goes through the schemas that wait and fetches what they refer to. -/
theorem Seeks.run {base : Uri} {reference : String} (hlocal : Fragment.isLocal reference = false)
    (hspecification : Draft.isSpecification reference = false)
    (hscheme : base.scheme ≠ some "urn".toList) (hheld : held base.text) {rounds : Nat}
    {s s' : Survey} (hs : s.Seeks base reference held)
    (h : Survey.run documents (rounds + 1) s = .ok s') :
    ∃ u, Site.resolve base.document reference = .ok u ∧ held u.document.text := by
  unfold Survey.run at h
  obtain ⟨visited, hvisited, h⟩ := bind_eq_ok.1 h
  obtain ⟨hseeks, hwaiting⟩ :=
    hs.visitAll hlocal hspecification hscheme hheld (Nat.lt_succ_self _) hvisited
  have hpends : visited.Pends base reference := by
    refine hseeks.covers.resolve_right ?_
    rintro ⟨site, hsite, -⟩
    rw [hwaiting] at hsite
    cases hsite
  obtain ⟨u, hu, hresolve⟩ := hpends
  refine ⟨u, hresolve, ?_⟩
  split at h
  · next hempty =>
      rw [List.isEmpty_iff.1 hempty] at hu
      cases hu
  · obtain ⟨fetched, hfetched, -⟩ := bind_eq_ok.1 h
    exact held_of_fetchAll hdocuments (s := { visited with pending := [] }) hseeks.registry
      hfetched u (List.mem_reverse.2 hu)

end

end Survey

/-! ## The collection -/

/-- Where documents can be collected from a document, there is a document at the address of each
text that it refers to: one of the schema language, the document itself or another one that is at
hand. -/
theorem Registry.isHeld_of_collect {documents : List (String × Json)} {schema : Json} {r : Registry}
    {address base : Uri} {reference : String}
    (haddress : Site.address ⟨.draft7, schema⟩ = .ok address)
    (hbase : Site.enter address ⟨.draft7, schema⟩ = .ok base)
    (hparts : schema.HasPlainParts fun _ => True) (hmentions : Mentions reference schema)
    (hlocal : Fragment.isLocal reference = false)
    (hspecification : Draft.isSpecification reference = false)
    (hscheme : base.scheme ≠ some "urn".toList)
    (h : Registry.collect MetaSchema.registry documents ⟨.draft7, schema⟩ = .ok r) :
    ∃ u, Site.resolve base.document reference = .ok u
      ∧ (Site.IsReserved u.document.text ∨ u.document.text ∈ [address.text, base.text]
        ∨ (documents.lookup u.document.text).isSome = true) := by
  unfold Registry.collect at h
  obtain ⟨begun, hbegun, h⟩ := bind_eq_ok.1 h
  cases haddress.symm.trans hbegun
  unfold Registry.addDocument at h
  obtain ⟨s, hs, -⟩ := bind_eq_ok.1 h
  let held (a : String) : Prop :=
    Site.IsReserved a ∨ a ∈ [address.text, base.text] ∨ (documents.lookup a).isSome = true
  have hseeks : Survey.Seeks base reference held
      ⟨MetaSchema.registry.addResource address.text ⟨.draft7, schema⟩,
        [⟨address, ⟨.draft7, schema⟩⟩], [], []⟩ := by
    refine ⟨nofun, .inr ⟨_, .head _, hmentions⟩,
      List.forall_mem_singleton.2 ⟨rfl, hparts, hbase⟩, ?_⟩
    exact Registry.forall_addResource _ (fun _ => .inl) (.inr (.inl (.head _)))
  exact hseeks.run (fun _ ha => .inr (.inr ha)) hlocal hspecification hscheme
    (.inr (.inl (.tail _ (.head _)))) hs

/-! ## References to types -/

/-- A reference to a type is none to the schema language, whatever fragment it has. -/
theorem Draft.isSpecification_append {s tail : String}
    (htail : tail.toList = [] ∨ tail.toList.head? = some '#')
    (h : isSpecification s = false) : isSpecification (s ++ tail) = false := by
  unfold isSpecification at h ⊢
  rw [List.any_eq_false] at h ⊢
  intro d hd hprefix
  refine h d hd (List.isPrefixOf_iff_prefix.2 ?_)
  rw [List.isPrefixOf_iff_prefix, String.toList_append] at hprefix
  rcases List.prefix_or_prefix_of_prefix hprefix (List.prefix_append _ _) with hbefore | ⟨ds, hds⟩
  · exact hbefore
  · rw [← hds, List.prefix_append_right_inj] at hprefix
    -- What would reach into the fragment begins with its number sign.
    cases ds with
    | nil =>
        rw [← hds, List.append_nil]
    | cons c cs =>
        rcases htail with htail | htail
        · rw [htail] at hprefix
          cases List.prefix_nil.1 hprefix
        · obtain ⟨rest, hrest⟩ := hprefix
          rw [← hrest] at htail
          obtain rfl : c = '#' := Option.some.inj htail
          have hhome : ∀ d ∈ all, '#' ∉ d.home.toList := by decide
          refine absurd ?_ (hhome d hd)
          rw [← hds]
          exact List.mem_append_right _ List.mem_cons_self

namespace Emitter

variable {domain t : String}

/-- What a reference to a type means, with a fragment or without, stands at an address of the type.
-/
theorem isAddressOf_of_resolve_append (hdomain : IsAbsoluteDomain domain) (ht : Name.IsTypeName t)
    {tail : String} (htail : tail.toList = [] ∨ tail.toList.head? = some '#') {base u : Uri}
    (hlocal : Fragment.isLocal ((ofDomain domain).uri t ++ tail) = false)
    (h : Site.resolve base ((ofDomain domain).uri t ++ tail) = .ok u) :
    IsAddressOf u.document.text t := by
  obtain ⟨r, v, hparse, hresolve, rfl⟩ := (Site.resolve_eq_ok hlocal).1 h
  obtain ⟨system, name, hs, hn, rfl⟩ := ht
  have htext : ((ofDomain domain).uri (Name.qualify system name) ++ tail).toList
      = Name.trimEndSlashes domain.toList ++ Uri.typePath system name ++ tail.toList := by
    rw [String.toList_append, toList_uri_ofDomain, Uri.typePath_eq]
  obtain ⟨scheme, rest, hlist, hscheme⟩ := hdomain.scheme
  have hcolon := htext
  rw [hlist, Name.trimEndSlashes_append (by decide), List.append_assoc, List.append_assoc] at hcolon
  have hsome := Uri.isSome_scheme_of_parse hscheme hcolon hparse
  have hends : Uri.EndsWithType system name r.document :=
    Uri.endsWithType_document_of_parse hs hn htext (Name.getLast?_trimEndSlashes _)
      (fun hmem => hdomain.noFragment (Name.mem_of_mem_trimEndSlashes hmem)) htail hparse
  have hv : Uri.EndsWithType system name v.document := by
    rw [Uri.eq_of_resolve_eq_ok hsome hresolve]
    exact hends.imp rfl rfl fun hpath => (hpath.removeDots hs hn).guarded _
  exact isAddressOf_qualify.2 (hv.exists_text_normalized hs hn)

/-- Whether the schema language keeps no address of a type for itself. -/
structure IsForeign (e : Emitter) (t : String) : Prop where
  specification : Draft.isSpecification (e.uri t) = false
  reserved : ∀ address, Site.IsReserved address → ¬ IsAddressOf address t

instance (e : Emitter) (t : String) : Decidable (e.IsForeign t) :=
  decidable_of_iff (Draft.isSpecification (e.uri t) = false
      ∧ ∀ entry ∈ MetaSchema.registry.resources,
        ('/' :: t.toList).isSuffixOf entry.1.toList = false) (by
    have haddress (address : String) : IsAddressOf address t
        ↔ ('/' :: t.toList).isSuffixOf address.toList = true := by
      rw [List.isSuffixOf_iff_suffix]
      exact exists_congr fun front => eq_comm
    constructor
    · rintro ⟨hspecification, hall⟩
      refine ⟨hspecification, fun address hreserved hat => ?_⟩
      obtain ⟨resource, hresource⟩ := Option.isSome_iff_exists.1 hreserved
      exact Bool.false_ne_true
        ((hall _ (Table.mem_of_lookup hresource)).symm.trans ((haddress address).1 hat))
    · rintro ⟨hspecification, hreserved⟩
      refine ⟨hspecification, fun entry hentry => ?_⟩
      rw [← Bool.not_eq_true, ← haddress]
      obtain ⟨resource, hresource⟩ := Table.exists_lookup_of_mem (List.mem_map_of_mem hentry)
      exact hreserved entry.1 (Option.isSome_iff_exists.2 ⟨resource, hresource⟩))

/-- A document has addresses of its own type, or none. It has none where a reference hides the one
that it gives itself. -/
theorem not_isAddressOf_of_enter (hweb : IsWebDomain domain) {name : String}
    (hname : Name.IsTypeName name) (ht : Name.IsTypeName t) (hne : t ≠ name) {schema : Json}
    (hid : schema.member? "$id" = some (.string ((ofDomain domain).uri name))) {address base : Uri}
    (haddress : Site.address ⟨.draft7, schema⟩ = .ok address)
    (hbase : Site.enter address ⟨.draft7, schema⟩ = .ok base) :
    base.scheme ≠ some "urn".toList ∧ ∀ a ∈ [address.text, base.text], ¬ IsAddressOf a t := by
  have haddresses := hweb.isAbsoluteDomain.hasAddresses
  have hown := haddresses.ownAddress? hname hid
  unfold Site.address at haddress
  unfold Site.enter at hbase
  dsimp only at haddress hbase
  rw [hown] at haddress hbase
  rw [List.forall_mem_cons, List.forall_mem_singleton]
  -- A reference hides the name, and the document is at the root; without one it is at the address
  -- that it gives itself.
  by_cases href : (schema.member? "$ref").isSome = true
  · rw [if_pos href] at haddress hbase
    cases haddress
    cases hbase
    exact ⟨by decide, not_isAddressOf_rootBase ht, not_isAddressOf_rootBase ht⟩
  · rw [if_neg href] at haddress hbase
    refine ⟨?_, fun ha => hne (ha.unique ht hname (haddresses.ofText name _ hname haddress)),
      fun ha => hne (ha.unique ht hname (haddresses.resolve name _ _ hname hbase).1)⟩
    obtain ⟨r, w, hparse, hresolve, rfl⟩ :=
      (Site.resolve_eq_ok (haddresses.isLocal hname)).1 hbase
    obtain ⟨scheme, hr, hmem⟩ := hweb.scheme_of_parse_uri hname hparse
    have hw := Uri.eq_of_resolve_eq_ok (by rw [hr]; rfl) hresolve
    show w.scheme.map _ ≠ _
    rw [hw]
    show r.scheme.map _ ≠ _
    rw [hr, Option.map_some]
    intro heq
    rw [Option.some.inj heq] at hmem
    exact absurd hmem (by decide)

/-- Where a validator can be built of a document that refers to another type, there is a document at
an address of the type. -/
theorem exists_lookup_of_build (hweb : IsWebDomain domain) {name : String}
    (hname : Name.IsTypeName name) (ht : Name.IsTypeName t) (hne : t ≠ name)
    (hforeign : (ofDomain domain).IsForeign t) {tail : String}
    (htail : tail.toList = [] ∨ tail.toList.head? = some '#')
    {documents : List (String × Json)} {formats : List Format} {checksFormats : Bool}
    {schema : Json} (hid : schema.member? "$id" = some (.string ((ofDomain domain).uri name)))
    (hparts : schema.HasPlainParts fun _ => True)
    (hmentions : Mentions ((ofDomain domain).uri t ++ tail) schema) {v : Validator}
    (h : Validator.build documents formats checksFormats schema = .ok v) :
    ∃ address, IsAddressOf address t ∧ (documents.lookup address).isSome = true := by
  have haddresses := hweb.isAbsoluteDomain.hasAddresses
  have hlocal : Fragment.isLocal ((ofDomain domain).uri t ++ tail) = false := by
    refine decide_eq_false fun hhead => ?_
    obtain ⟨scheme, rest, hne, -, huri, -⟩ := hweb.exists_toList_uri ht
    obtain ⟨c, cs, hcs⟩ := List.exists_cons_of_ne_nil hne
    rw [String.toList_append, List.head?_append_of_ne_nil _ (by rw [huri, hcs]; nofun)] at hhead
    exact haddresses.noSign t ht (List.mem_of_mem_head? hhead)
  obtain ⟨registry, hcollect, h⟩ := bind_eq_ok.1 h
  obtain ⟨_, -, h⟩ := bind_eq_ok.1 h
  unfold Reader.validator at h
  obtain ⟨address, haddress, h⟩ := bind_eq_ok.1 h
  obtain ⟨base, hbase, -⟩ := bind_eq_ok.1 h
  -- The reference is seen in the first round, so something is held at its address.
  obtain ⟨hscheme, hbases⟩ := not_isAddressOf_of_enter hweb hname ht hne hid haddress hbase
  obtain ⟨u, hu, hheld⟩ := Registry.isHeld_of_collect haddress hbase hparts hmentions hlocal
    (Draft.isSpecification_append htail hforeign.specification) hscheme hcollect
  have hat := isAddressOf_of_resolve_append hweb.isAbsoluteDomain ht htail hlocal hu
  rcases hheld with hreserved | hown | hlookup
  · exact absurd hat (hforeign.reserved _ hreserved)
  · exact absurd hat (hbases _ hown)
  · exact ⟨_, hat, hlookup⟩

end Emitter

end TypeCatalog
