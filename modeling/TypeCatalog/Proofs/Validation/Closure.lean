import Mathlib.Algebra.GroupWithZero.Nat
import Mathlib.Data.Finset.Card
import TypeCatalog.Proofs.Catalog.Documents
import TypeCatalog.Proofs.Validation.Document
import TypeCatalog.Validation.Build

/-!
# All documents that are reached are collected

`Survey.run` fetches the documents that a schema refers to, those that these refer to, and so on,
and it is at its end when no schema waits and no reference is pending. `exists_collect` says that it
comes there when each document that is reached can be fetched, and that the registry then holds the
documents of all types that the documents in it refer to.

The invariant is `Survey.Covers`: whenever a document that is known refers to a type, the document
of the type is known or pending, or the reference stands inside a schema that waits. Rounds do not
run out. A schema that was gone through leaves fewer values waiting than it has itself, and a round
that fetches nothing new is the last but one.

`Survey.run` is `visitAll`, which goes through the schemas that wait, and then `fetchAll` for the
references that are pending, again and again. Each of the functions below them, `note`, `enqueue`,
`visit` and `fetch`, has one lemma that says that it succeeds and keeps `Covers`. `Registry.collect`
begins the run with the schema by itself (`Site.address`).
-/

set_option autoImplicit false

namespace TypeCatalog

open Result

/-! ## Addresses that are fetched -/

/-- Whether a reference to a type leads to what is held at the address of the type: the address is
in its normal form, and the schema language does not keep it for itself. -/
structure Emitter.IsFetched (e : Emitter) (t : String) : Prop where
  normal : ∃ u, Site.resolve Site.rootBase (e.uri t) = .ok u ∧ u.text = e.uri t
  foreign : Draft.isSpecification (e.uri t) = false

instance (e : Emitter) (t : String) : Decidable (e.IsFetched t) :=
  decidable_of_iff
    (((Site.resolve Site.rootBase (e.uri t)).toOption.any fun u => u.text = e.uri t)
      && !Draft.isSpecification (e.uri t)) (by
    rw [Bool.and_eq_true, Bool.not_eq_true']
    constructor
    · rintro ⟨hnormal, hforeign⟩
      obtain ⟨u, hu, htext⟩ := (Option.any_eq_true _ _).1 hnormal
      exact ⟨⟨u, toOption_eq_some.1 hu, of_decide_eq_true htext⟩, hforeign⟩
    · rintro ⟨⟨u, hu, htext⟩, hforeign⟩
      exact ⟨(Option.any_eq_true _ _).2 ⟨u, toOption_eq_some.2 hu, decide_eq_true htext⟩, hforeign⟩)

/-- What is fetched is a reference in form. -/
theorem Emitter.IsFetched.isReference {domain t : String} (hweb : IsWebDomain domain)
    (ht : Name.IsTypeName t) (h : (Emitter.ofDomain domain).IsFetched t) :
    Format.isReference false false ((Emitter.ofDomain domain).uri t) = true := by
  obtain ⟨u, hu, -⟩ := h.normal
  obtain ⟨r, -, hparse, -, -⟩ := (hweb.resolve_uri_eq_ok ht).1 hu
  unfold Format.isReference
  rw [show Uri.parseWith false _ = .ok r from hparse]
  rfl

/-- Types of a batch whose documents are held at their addresses, and with each type all those that
its properties refer to. -/
structure Emitter.IsClosed (e : Emitter) (documents : List (String × Json))
    (meaning : String → Option Demand) (T : String → Prop) : Prop where
  isFetched : ∀ t, T t → e.IsFetched t
  document : ∀ t, T t → ∃ schema, documents.lookup (e.uri t) = some schema
    ∧ e.Describes meaning t schema
  targets : ∀ t, T t → ∀ demand, meaning t = some demand → ∀ u ∈ demand.targets, T u

/-- The types of a closed set have names of types. -/
theorem Emitter.IsClosed.name {e : Emitter} {documents : List (String × Json)}
    {meaning : String → Option Demand} {T : String → Prop} (h : e.IsClosed documents meaning T)
    {t : String} (ht : T t) : Name.IsTypeName t := by
  obtain ⟨schema, -, hdocument⟩ := h.document t ht
  exact hdocument.name

/-! ## References inside schemas -/

/-- Whether a schema, or one inside it, refers to a type. -/
inductive Refers (e : Emitter) (t : String) : Json → Prop where
  | here {v : Json} (h : v.member? "$ref" = some (.string (e.uri t))) : Refers e t v
  | inside {v x : Json} (hx : x ∈ Draft.draft7.subschemas v) (h : Refers e t x) : Refers e t v

/-- Whether a schema inside another one refers to a type. -/
def RefersInside (e : Emitter) (t : String) (v : Json) : Prop :=
  ∃ x ∈ Draft.draft7.subschemas v, Refers e t x

/-- A schema that has no name of its own or is the document of some type, and refers to nothing but
the schema language and some types, as do the schemas inside it. -/
inductive Surveyed (e : Emitter) (meaning : String → Option Demand) (T : String → Prop) :
    Json → Prop where
  | mk {v : Json}
      (hid : Draft.draft7.ownAddress? v = none ∨ ∃ t, T t ∧ e.Describes meaning t v)
      (hdetect : Draft.draft7.detect v = .ok .draft7)
      (href : ∀ k ∈ ["$ref", "$schema"], ∀ s, v.member? k = some (.string s) →
        Draft.isSpecification s = true ∨ ∃ t, T t ∧ s = e.uri t)
      (hinside : ∀ x ∈ Draft.draft7.subschemas v, Surveyed e meaning T x) :
      Surveyed e meaning T v

variable {e : Emitter} {meaning : String → Option Demand} {T : String → Prop}

/-- A plain value can be surveyed when it refers to types of the set only. -/
theorem Surveyed.of_plain {v : Json} (h : Plain e v) (hT : ∀ t, Refers e t v → T t) :
    Surveyed e meaning T v := by
  induction h with
  | @mk v hid hschema href hinside ih =>
      have hplain : Plain e v := .mk hid hschema href hinside
      refine .mk (.inl hplain.ownAddress?) hplain.detect ?_ ?_
      · intro k hk s hs
        rcases List.mem_pair.1 hk with rfl | rfl
        · obtain ⟨t, -, rfl⟩ := href s hs
          exact .inr ⟨t, hT t (.here hs), rfl⟩
        · rw [hschema] at hs
          cases hs
      · exact fun x hx => ih x hx fun t ht => hT t (.inside hx ht)

/-- The schema of a reference refers to the type that it names. -/
theorem refers_reference_iff {t u : String} :
    Refers e t (.object [("$ref", .string (e.uri u))]) ↔ t = u := by
  constructor
  · intro h
    cases h with
    | here h => exact (e.uri_injective (Json.string.inj (Option.some.inj h))).symm
    | inside hx _ => cases hx
  · rintro rfl
    exact .here rfl

/-- The schema of a property refers to the type of the property. -/
theorem refers_propertySchema_iff {t system : String} {p : Property} :
    Refers e t (e.propertySchema system p) ↔ t = Emitter.propertyTarget system p := by
  unfold Emitter.propertySchema
  cases p.array with
  | false =>
      cases Emitter.nonEmpty p.summary with
      | none => exact refers_reference_iff
      | some s =>
          constructor
          -- With a summary the same member stands behind the description.
          · intro h
            cases h with
            | here h => exact (e.uri_injective (Json.string.inj (Option.some.inj h))).symm
            | inside hx _ => cases hx
          · rintro rfl
            exact .here rfl
  | true =>
      have hitems {v : Json} (hv : v.member? "$ref" = none)
          (hinside : Draft.draft7.subschemas v
            = [.object [("$ref", .string (e.uri (Emitter.propertyTarget system p)))]]) :
          Refers e t v ↔ t = Emitter.propertyTarget system p := by
        rw [← refers_reference_iff (e := e)]
        constructor
        · intro h
          cases h with
          | here h =>
              rw [hv] at h
              cases h
          | inside hx h =>
              rw [hinside, List.mem_singleton] at hx
              rw [← hx]
              exact h
        · intro h
          exact .inside (by rw [hinside]; exact List.mem_cons_self) h
      cases Emitter.nonEmpty p.summary with
      | none => exact hitems rfl rfl
      | some s => exact hitems rfl rfl

/-- The documents of records refer to the types of their properties, and others to none. -/
theorem Emitter.Describes.refersInside_iff {t u : String} {schema : Json} {demand : Demand}
    (h : e.Describes meaning t schema) (hdemand : meaning t = some demand) :
    RefersInside e u schema ↔ u ∈ demand.targets := by
  obtain ⟨header, demand', hdemand', hwellFormed, -, rfl⟩ := h.demand
  obtain rfl := Option.some.inj (hdemand.symm.trans hdemand')
  constructor
  · rintro ⟨x, hx, href⟩
    obtain ⟨system, properties, required, rfl, rfl | ⟨p, hp, rfl⟩⟩ :=
      (mem_subschemas_demandSchema hwellFormed).1 hx
    · cases href with
      | here h => cases h
      | inside hx _ => cases hx
    · rw [refers_propertySchema_iff.1 href]
      exact List.mem_map_of_mem hp
  · intro hu
    cases demand with
    | record system properties required =>
        obtain ⟨p, hp, rfl⟩ := List.mem_map.1 hu
        exact ⟨_, (mem_subschemas_demandSchema hwellFormed).2
          ⟨system, properties, required, rfl, .inr ⟨p, hp, rfl⟩⟩, refers_propertySchema_iff.2 rfl⟩
    | _ => cases hu

/-- The document of a type of the set can be surveyed. -/
theorem Emitter.IsClosed.surveyed {documents : List (String × Json)} {t : String} {schema : Json}
    (hclosed : e.IsClosed documents meaning T) (ht : T t) (h : e.Describes meaning t schema) :
    Surveyed e meaning T schema := by
  obtain ⟨header, demand, hdemand, -, -, rfl⟩ := h.demand
  refine .mk (.inr ⟨t, ht, h⟩) h.detect ?_ ?_
  · intro k hk s hs
    rcases List.mem_pair.1 hk with rfl | rfl
    · rw [Emitter.member?_ref_demandSchema] at hs
      cases hs
    · rw [Emitter.member?_schema_demandSchema] at hs
      cases hs
      exact .inl (by decide)
  · intro x hx
    refine .of_plain (h.plain_of_mem_subschemas hx) fun u hu => ?_
    exact hclosed.targets t ht demand hdemand u ((h.refersInside_iff hdemand).1 ⟨x, hx, hu⟩)

/-! ## Bases -/

/-- The bases of references: that of schemas without an address, and the addresses of types. -/
def IsBase (e : Emitter) (T : String → Prop) (base : Uri) : Prop :=
  base = Site.rootBase ∨ ∃ t, T t ∧ Site.resolve Site.rootBase (e.uri t) = .ok base

section

variable {domain : String} (hweb : IsWebDomain domain)

include hweb

/-- The address of a type means the same at every base without a fragment. -/
theorem IsWebDomain.resolve_uri_eq {t : String} (ht : Name.IsTypeName t) {base : Uri}
    (hbase : base.fragment = none) :
    Site.resolve base ((Emitter.ofDomain domain).uri t)
      = Site.resolve Site.rootBase ((Emitter.ofDomain domain).uri t) := by
  unfold Site.resolve
  rw [hweb.isLocal_uri ht, Bool.false_and, Bool.false_and, if_neg Bool.false_ne_true,
    if_neg Bool.false_ne_true]
  cases hparse : Uri.parse ((Emitter.ofDomain domain).uri t) with
  | error f => rfl
  | ok r =>
      have hscheme := (hweb.of_parse_uri ht hparse).1
      unfold Site.resolveAt
      dsimp only
      rw [Uri.resolve_of_scheme hbase hscheme, Uri.resolve_of_scheme rfl hscheme]

/-- A base has no fragment, and its references are noted. -/
theorem IsBase.fragment_scheme {base : Uri} (h : IsBase (.ofDomain domain) T base)
    (hT : ∀ t, T t → Name.IsTypeName t) :
    base.fragment = none ∧ base.scheme ≠ some "urn".toList := by
  rcases h with rfl | ⟨t, ht, hresolve⟩
  · exact ⟨rfl, by decide⟩
  · refine ⟨(hweb.resolve_uri (hT t ht) hresolve).2.1, ?_⟩
    obtain ⟨r, v, hparse, hv, rfl⟩ := (hweb.resolve_uri_eq_ok (hT t ht)).1 hresolve
    obtain ⟨scheme, hscheme, hlower⟩ := hweb.scheme_of_parse_uri (hT t ht) hparse
    rw [Uri.eq_of_resolve_eq_ok (hweb.of_parse_uri (hT t ht) hparse).1 hv]
    show r.scheme.map (·.map Ascii.lower) ≠ _
    rw [hscheme]
    intro heq
    have hname : scheme.map Ascii.lower = "urn".toList := Option.some.inj heq
    rw [hname] at hlower
    exact absurd hlower (by decide)

end

/-- Whether a schema can be gone through at a base. -/
structure Site.IsSurveyed (e : Emitter) (meaning : String → Option Demand) (T : String → Prop)
    (site : Site) : Prop where
  draft : site.resource.draft = .draft7
  fragment : site.base.fragment = none
  base : Draft.draft7.ownAddress? site.resource.schema = none → IsBase e T site.base
  schema : Surveyed e meaning T site.resource.schema

/-! ## The number of values -/

/-- The count of a list is the sum of those of its items. -/
theorem Json.itemCount_eq (xs : List Json) : itemCount xs = (xs.map count).sum := by
  induction xs with
  | nil => rfl
  | cons x xs ih => rw [itemCount, ih, List.map_cons, List.sum_cons]

/-- That of an object is the sum of those of its members. -/
theorem Json.memberCount_eq (ms : List (String × Json)) :
    memberCount ms = (ms.map fun m => count m.2).sum := by
  induction ms with
  | nil => rfl
  | cons m ms ih => rw [memberCount, ih, List.map_cons, List.sum_cons]

/-- Each value counts at least itself. -/
theorem Json.count_pos (v : Json) : 0 < v.count := by
  cases v with
  | array xs => exact Nat.succ_pos _
  | object ms => exact Nat.succ_pos _
  | _ => exact Nat.one_pos

/-- The schemas of a member count no more than its value. -/
theorem Draft.sum_count_schemasOf (d : Draft) (m : String × Json) :
    ((d.schemasOf m).map Json.count).sum ≤ m.2.count := by
  unfold schemasOf
  split
  · simp
  · next h => simp [h]
  · next h => rw [h, Json.count, Json.itemCount_eq]; exact Nat.le_succ _
  · next h => rw [h, Json.count, Json.itemCount_eq]; exact Nat.le_succ _
  · simp
  · next ms h =>
      rw [h, Json.count, Json.memberCount_eq, List.map_map]
      exact Nat.le_succ _
  · exact Nat.zero_le _

/-- The schemas inside a schema have fewer values than the schema. -/
theorem Draft.sum_count_subschemas (d : Draft) (v : Json) :
    ((d.subschemas v).map Json.count).sum < v.count := by
  unfold subschemas
  cases v with
  | object ms =>
      show ((ms.flatMap d.schemasOf).map Json.count).sum < Json.memberCount ms + 1
      refine Nat.lt_succ_of_le ?_
      induction ms with
      | nil => exact Nat.zero_le _
      | cons m ms ih =>
          rw [List.flatMap_cons, List.map_append, List.sum_append, Json.memberCount]
          exact Nat.add_le_add (d.sum_count_schemasOf m) ih
  | _ => exact Json.count_pos _

/-! ## What a survey knows -/

namespace Registry

variable (r : Registry) {address other : String} (resource : Resource)

/-- A resource is found where it was added. -/
theorem resource?_addResource_self :
    (r.addResource address resource).resource? address = some resource := List.lookup_cons_self

/-- And no other one is found differently. -/
theorem resource?_addResource_of_ne (h : other ≠ address) :
    (r.addResource address resource).resource? other = r.resource? other := by
  unfold resource? addResource
  rw [List.lookup_cons, beq_false_of_ne h]

variable {resource}

/-- What a registry holds is not lost, though it may be replaced. -/
theorem isSome_addResource (h : (r.resource? other).isSome) :
    ((r.addResource address resource).resource? other).isSome := by
  by_cases heq : other = address
  · rw [heq, r.resource?_addResource_self]
    rfl
  · rw [r.resource?_addResource_of_ne _ heq]
    exact h

end Registry

namespace Survey

/-- Whether the document of a type is known, or will be fetched. -/
def Found (e : Emitter) (t : String) (s : Survey) : Prop :=
  (s.registry.resource? (e.uri t)).isSome ∨ ∃ u ∈ s.pending, u.text = e.uri t

/-- Whether a reference to a type is not forgotten: the type is found, or the reference stands
inside a schema that waits, or in one that is about to. -/
def Covered (e : Emitter) (t : String) (todo : List Json) (s : Survey) : Prop :=
  s.Found e t ∨ (∃ site ∈ s.waiting, RefersInside e t site.resource.schema)
    ∨ ∃ x ∈ todo, Refers e t x

/-- Whether a schema is the one that the survey started from, or the known document of a type. -/
def Knows (e : Emitter) (T : String → Prop) (start : Json) (s : Survey) (v : Json) : Prop :=
  v = start ∨ ∃ t resource, T t ∧ s.registry.resource? (e.uri t) = some resource
    ∧ v = resource.schema

/-- The invariant of a survey that started from a schema. Some schemas are about to wait. -/
structure Covers (e : Emitter) (meaning : String → Option Demand) (T : String → Prop)
    (start : Json) (todo : List Json) (s : Survey) : Prop where
  waiting : ∀ site ∈ s.waiting, site.IsSurveyed e meaning T
  pending : ∀ u ∈ s.pending, ∃ t, T t ∧ Site.resolve Site.rootBase (e.uri t) = .ok u
  met : ∀ base t, T t → (base, e.uri t) ∈ s.met → s.Found e t
  sound : ∀ t, T t → ∀ resource, s.registry.resource? (e.uri t) = some resource →
    resource.draft = .draft7 ∧ e.Describes meaning t resource.schema
  known : ∀ v, s.Knows e T start v → ∀ t, T t → RefersInside e t v → s.Covered e t todo

/-- Noting references adds pending ones and nothing else that matters. -/
structure Notes (s s' : Survey) : Prop where
  registry : s'.registry = s.registry
  waiting : s'.waiting = s.waiting
  pending : s.pending ⊆ s'.pending

/-- Noting nothing notes. -/
theorem Notes.refl (s : Survey) : Notes s s := ⟨rfl, rfl, List.Subset.refl _⟩

/-- Noting can be done in two steps. -/
theorem Notes.trans {s s' s'' : Survey} (h : Notes s s') (h' : Notes s' s'') : Notes s s'' :=
  ⟨h'.registry.trans h.registry, h'.waiting.trans h.waiting, List.Subset.trans h.pending h'.pending⟩

/-- A document that is found stays so. -/
theorem Notes.found {s s' : Survey} (h : Notes s s') {t : String} (ht : s.Found e t) :
    s'.Found e t := by
  unfold Found
  rw [h.registry]
  exact ht.imp_right fun ⟨u, hu, htext⟩ => ⟨u, h.pending hu, htext⟩

/-- Whether what a survey knows is known to a later one, too. -/
def Grows (s s' : Survey) : Prop :=
  ∀ address, (s.registry.resource? address).isSome → (s'.registry.resource? address).isSome

/-- A registry that grows twice grows. -/
theorem Grows.trans {s s' s'' : Survey} (h : Grows s s') (h' : Grows s' s'') : Grows s s'' :=
  fun address hknown => h' address (h address hknown)

/-- The size of a survey is the sum of the counts of the schemas that wait. -/
theorem size_eq (s : Survey) :
    s.size = (s.waiting.map fun site => site.resource.schema.count).sum := by
  unfold size
  rw [List.sum_eq_foldl, List.foldl_map]

variable {start : Json} {todo : List Json}

/-- What was covered is covered when more is pending. -/
theorem Covers.notes {s s' : Survey} (hs : s.Covers e meaning T start todo) (h : Notes s s')
    (hpending : ∀ u ∈ s'.pending, ∃ t, T t ∧ Site.resolve Site.rootBase (e.uri t) = .ok u)
    (hmet : ∀ base t, T t → (base, e.uri t) ∈ s'.met → s'.Found e t) :
    s'.Covers e meaning T start todo := by
  refine ⟨?_, hpending, hmet, ?_, ?_⟩
  · rw [h.waiting]
    exact hs.waiting
  · rw [h.registry]
    exact hs.sound
  · intro v hv t ht href
    unfold Knows at hv
    rw [h.registry] at hv
    unfold Covered
    rw [h.waiting]
    exact (hs.known v hv t ht href).imp_left h.found

/-- Names of places are not looked at. -/
theorem Covers.of_registry_eq {s : Survey} {r : Registry}
    (hs : s.Covers e meaning T start todo) (hr : r.resources = s.registry.resources) :
    Covers e meaning T start todo { s with registry := r } := by
  have hresource (address : String) : r.resource? address = s.registry.resource? address := by
    unfold Registry.resource?
    rw [hr]
  have hfound {t : String} (ht : s.Found e t) : Found e t { s with registry := r } := by
    unfold Found
    rw [hresource]
    exact ht
  refine ⟨hs.waiting, hs.pending, fun b t ht hmem => hfound (hs.met b t ht hmem), ?_, ?_⟩
  · intro t ht resource hlookup
    rw [hresource] at hlookup
    exact hs.sound t ht resource hlookup
  · intro v hv t ht href
    unfold Knows at hv
    simp only [hresource] at hv
    exact (hs.known v hv t ht href).imp_left hfound

/-- A document may be entered at the address of its type, when what it refers to is covered. -/
theorem Covers.addResource {address : String} {resource : Resource} {s : Survey}
    (hs : s.Covers e meaning T start todo)
    (haddress : ∀ t, T t → e.uri t = address →
      resource.draft = .draft7 ∧ e.Describes meaning t resource.schema)
    (hresource : ∀ t, T t → RefersInside e t resource.schema →
      s.Covered e t todo) :
    Covers e meaning T start todo
      { s with registry := s.registry.addResource address resource } := by
  have hfound {t : String} (ht : s.Found e t) : Found e t
      { s with registry := s.registry.addResource address resource } :=
    ht.imp_left s.registry.isSome_addResource
  have hcovered {t : String} (ht : s.Covered e t todo) :
      Covered e t todo
        { s with registry := s.registry.addResource address resource } := ht.imp_left hfound
  -- The address is that of the new resource, which was described, or of one that was there.
  have hlookup {t : String} {r : Resource}
      (hr : (s.registry.addResource address resource).resource? (e.uri t)
        = some r) : e.uri t = address ∧ r = resource
          ∨ s.registry.resource? (e.uri t) = some r := by
    by_cases heq : e.uri t = address
    · rw [heq, s.registry.resource?_addResource_self] at hr
      exact .inl ⟨heq, (Option.some.inj hr).symm⟩
    · rw [s.registry.resource?_addResource_of_ne _ heq] at hr
      exact .inr hr
  refine ⟨hs.waiting, hs.pending, fun b t ht hmem => hfound (hs.met b t ht hmem), ?_, ?_⟩
  · intro t ht r hr
    rcases hlookup hr with ⟨heq, rfl⟩ | hr
    · exact haddress t ht heq
    · exact hs.sound t ht r hr
  · intro v hv u hu href
    rcases hv with rfl | ⟨t, r, ht, hr, rfl⟩
    · exact hcovered (hs.known _ (.inl rfl) u hu href)
    · rcases hlookup hr with ⟨-, rfl⟩ | hr
      · exact hcovered (hresource u hu href)
      · exact hcovered (hs.known _ (.inr ⟨t, r, ht, hr, rfl⟩) u hu href)

section

variable {domain : String} (hweb : IsWebDomain domain)
  (hT : ∀ t, T t → Name.IsTypeName t ∧ (Emitter.ofDomain domain).IsFetched t)

include hweb hT

/-! ## Noting references -/

/-- A reference to a type makes the document of the type one that is known or pending. -/
theorem Covers.note {follow : Json → Survey → Except SchemaFault Survey} {base : Uri}
    {whole : Json} {s : Survey} {reference : String}
    (hs : s.Covers (.ofDomain domain) meaning T start todo)
    (href : Draft.isSpecification reference = true
      ∨ ∃ t, T t ∧ reference = (Emitter.ofDomain domain).uri t) :
    ∃ s', Survey.note follow base whole s reference = .ok s' ∧ Notes s s'
      ∧ s'.Covers (.ofDomain domain) meaning T start todo
      ∧ ∀ t, T t → reference = (Emitter.ofDomain domain).uri t → s'.Found (.ofDomain domain) t := by
  unfold Survey.note
  -- A reference is skipped if it is one to the schema language, or was met at this base.
  by_cases hskip : (Draft.isSpecification reference || s.met.contains (base.text, reference)) = true
  · rw [if_pos hskip]
    refine ⟨s, rfl, .refl s, hs, ?_⟩
    rintro t ht rfl
    rw [(hT t ht).2.foreign, Bool.false_or] at hskip
    exact hs.met base.text t ht (List.contains_iff_mem.1 hskip)
  · rw [if_neg hskip]
    rcases href with hspec | ⟨t, ht, rfl⟩
    · rw [hspec] at hskip
      exact absurd rfl hskip
    · obtain ⟨u, hu, htext⟩ := (hT t ht).2.normal
      have hresolve : Site.resolve base.document ((Emitter.ofDomain domain).uri t) = .ok u := by
        rw [hweb.resolve_uri_eq (hT t ht).1 rfl]
        exact hu
      dsimp only
      rw [hweb.isLocal_uri (hT t ht).1, if_neg Bool.false_ne_true, hresolve]
      have hnotes : Notes s { s with
          met := (base.text, (Emitter.ofDomain domain).uri t) :: s.met
          pending := u :: s.pending } := ⟨rfl, rfl, List.subset_cons_self _ _⟩
      have hfound : Found (.ofDomain domain) t { s with
          met := (base.text, (Emitter.ofDomain domain).uri t) :: s.met
          pending := u :: s.pending } := .inr ⟨u, List.mem_cons_self, htext⟩
      refine ⟨_, rfl, hnotes, hs.notes hnotes ?_ ?_, ?_⟩
      · exact List.forall_mem_cons.2 ⟨⟨t, ht, hu⟩, hs.pending⟩
      · intro b t' ht' hmem
        rcases List.mem_cons.1 hmem with heq | hmem
        · rw [Emitter.uri_injective _ (Prod.mk.inj heq).2]
          exact hfound
        · exact hnotes.found (hs.met b t' ht' hmem)
      · intro t' ht' heq
        rw [← Emitter.uri_injective _ heq]
        exact hfound

/-- A number of references is noted, each as one is. -/
theorem Covers.noteTexts {follow : Json → Survey → Except SchemaFault Survey} {base : Uri}
    {whole : Json} {s : Survey} {references : List String}
    (hs : s.Covers (.ofDomain domain) meaning T start todo)
    (href : ∀ reference ∈ references, Draft.isSpecification reference = true
      ∨ ∃ t, T t ∧ reference = (Emitter.ofDomain domain).uri t) :
    ∃ s', references.foldlM (Survey.note follow base whole) s = .ok s' ∧ Notes s s'
      ∧ s'.Covers (.ofDomain domain) meaning T start todo
      ∧ ∀ t, T t → (Emitter.ofDomain domain).uri t ∈ references →
        s'.Found (.ofDomain domain) t := by
  induction references generalizing s with
  | nil => exact ⟨s, rfl, .refl s, hs, nofun⟩
  | cons reference references ih =>
      rw [List.forall_mem_cons] at href
      obtain ⟨s₁, h₁, hnotes₁, hs₁, hfound₁⟩ := hs.note hweb hT href.1
      obtain ⟨s₂, h₂, hnotes₂, hs₂, hfound₂⟩ := ih hs₁ href.2
      refine ⟨s₂, ?_, hnotes₁.trans hnotes₂, hs₂, ?_⟩
      · rw [List.foldlM_cons]
        exact bind_eq_ok.2 ⟨s₁, h₁, h₂⟩
      · intro t ht hmem
        rcases List.mem_cons.1 hmem with heq | hmem
        · exact hnotes₂.found (hfound₁ t ht heq.symm)
        · exact hfound₂ t ht hmem

/-- The references of a schema itself are noted at a base. -/
theorem Covers.noteAll {base : Uri} {v : Json} {s : Survey}
    (hs : s.Covers (.ofDomain domain) meaning T start todo)
    (hbase : IsBase (.ofDomain domain) T base) (hv : Surveyed (.ofDomain domain) meaning T v) :
    ∃ s', Survey.noteAll base v s = .ok s' ∧ Notes s s'
      ∧ s'.Covers (.ofDomain domain) meaning T start todo
      ∧ ∀ t, T t → v.member? "$ref" = some (.string ((Emitter.ofDomain domain).uri t)) →
        s'.Found (.ofDomain domain) t := by
  obtain ⟨-, -, href, -⟩ := hv
  have hrefs : ∀ reference ∈ ["$ref", "$schema"].filterMap
      (fun k => (v.member? k).bind Json.string?),
      Draft.isSpecification reference = true
        ∨ ∃ t, T t ∧ reference = (Emitter.ofDomain domain).uri t := by
    intro reference hmem
    obtain ⟨k, hk, hvalue⟩ := List.mem_filterMap.1 hmem
    obtain ⟨x, hx, hstring⟩ := Option.bind_eq_some_iff.1 hvalue
    cases x with
    | string _ =>
        cases hstring
        exact href k hk reference hx
    | _ => cases hstring
  unfold Survey.noteAll
  rw [if_neg (hbase.fragment_scheme hweb fun t ht => (hT t ht).1).2]
  unfold noteOf
  obtain ⟨s', h, hnotes, hs', hfound⟩ := hs.noteTexts hweb hT hrefs
  refine ⟨s', h, hnotes, hs', fun t ht href => hfound t ht ?_⟩
  exact List.mem_filterMap.2 ⟨"$ref", List.mem_cons_self, by rw [href]; rfl⟩

/-! ## Visiting schemas -/

/-- A schema that waits can be entered. Its base is that of the document that it is in, or the
address of the type that it describes. -/
theorem exists_enter {site : Site} (hsite : site.IsSurveyed (.ofDomain domain) meaning T) :
    ∃ base, Site.enter site.base site.resource = .ok base ∧ IsBase (.ofDomain domain) T base
      ∧ ∀ a, Draft.draft7.ownAddress? site.resource.schema = some a →
        ∃ t, T t ∧ (Emitter.ofDomain domain).Describes meaning t site.resource.schema
          ∧ base.text = (Emitter.ofDomain domain).uri t := by
  obtain ⟨hid, -, -, -⟩ := hsite.schema
  unfold Site.enter
  rw [hsite.draft]
  rcases hid with hnone | ⟨t, ht, hdocument⟩
  · rw [hnone]
    exact ⟨_, rfl, hsite.base hnone, nofun⟩
  · obtain ⟨u, hu, htext⟩ := (hT t ht).2.normal
    rw [hdocument.ownAddress? hweb]
    refine ⟨u, ?_, .inr ⟨t, ht, hu⟩, fun a _ => ⟨t, ht, hdocument, htext⟩⟩
    dsimp only
    rw [hweb.resolve_uri_eq (hT t ht).1 hsite.fragment]
    exact hu

/-- A schema that begins to wait is not about to any more: what it refers to itself is noted, and
what the schemas inside it refer to is covered since it waits. -/
theorem Covers.enqueue {base : Uri} {x : Json} {s : Survey}
    (hs : s.Covers (.ofDomain domain) meaning T start (x :: todo))
    (hbase : IsBase (.ofDomain domain) T base) (hx : Surveyed (.ofDomain domain) meaning T x) :
    ∃ s', Survey.enqueue base .draft7 s x = .ok s'
      ∧ s'.Covers (.ofDomain domain) meaning T start todo ∧ s'.registry = s.registry
      ∧ s'.waiting = s.waiting ++ [⟨base, ⟨.draft7, x⟩⟩] := by
  have hsite : Site.IsSurveyed (.ofDomain domain) meaning T ⟨base, ⟨.draft7, x⟩⟩ :=
    ⟨rfl, (hbase.fragment_scheme hweb fun t ht => (hT t ht).1).1, fun _ => hbase, hx⟩
  obtain ⟨entered, hentered, hisBase, -⟩ := exists_enter hweb hT hsite
  obtain ⟨s₁, h₁, hnotes, hs₁, hfound⟩ := hs.noteAll hweb hT hisBase hx
  have hdetect : Draft.draft7.detect x = .ok .draft7 := by
    obtain ⟨-, hdetect, -, -⟩ := hx
    exact hdetect
  refine ⟨{ s₁ with waiting := s₁.waiting ++ [⟨base, ⟨.draft7, x⟩⟩] }, ?_, ?_, hnotes.registry, ?_⟩
  · unfold Survey.enqueue
    rw [hdetect]
    exact bind_eq_ok.2 ⟨.draft7, rfl, bind_eq_ok.2 ⟨entered, hentered, bind_eq_ok.2 ⟨s₁, h₁, rfl⟩⟩⟩
  · refine ⟨?_, hs₁.pending, hs₁.met, hs₁.sound, ?_⟩
    · exact List.forall_mem_append.2 ⟨hs₁.waiting, List.forall_mem_singleton.2 hsite⟩
    · intro v hv t ht href
      -- Behind the schema, what was covered by it is covered since it waits.
      rcases hs₁.known v hv t ht href with hcovered | ⟨site, hmem, hinside⟩ | ⟨y, hy, hrefers⟩
      · exact .inl hcovered
      · exact .inr (.inl ⟨site, List.mem_append_left _ hmem, hinside⟩)
      · rcases List.mem_cons.1 hy with rfl | hy
        · cases hrefers with
          | here href => exact .inl (hfound t ht href)
          | inside hz hrefers =>
              exact .inr (.inl ⟨_, List.mem_append_right _ (List.mem_singleton.2 rfl), _, hz,
                hrefers⟩)
        · exact .inr (.inr ⟨y, hy, hrefers⟩)
  · rw [hnotes.waiting]

/-- A number of schemas begins to wait, each as one does. -/
theorem Covers.enqueueAll {base : Uri} {xs : List Json} {s : Survey}
    (hs : s.Covers (.ofDomain domain) meaning T start xs)
    (hbase : IsBase (.ofDomain domain) T base)
    (hxs : ∀ x ∈ xs, Surveyed (.ofDomain domain) meaning T x) :
    ∃ s', xs.foldlM (Survey.enqueue base .draft7) s = .ok s'
      ∧ s'.Covers (.ofDomain domain) meaning T start [] ∧ s'.registry = s.registry
      ∧ s'.waiting = s.waiting ++ xs.map fun x => ⟨base, ⟨.draft7, x⟩⟩ := by
  induction xs generalizing s with
  | nil => exact ⟨s, rfl, hs, rfl, (List.append_nil _).symm⟩
  | cons x xs ih =>
      rw [List.forall_mem_cons] at hxs
      obtain ⟨s₁, h₁, hs₁, hregistry₁, hwaiting₁⟩ := hs.enqueue hweb hT hbase hxs.1
      obtain ⟨s₂, h₂, hs₂, hregistry₂, hwaiting₂⟩ := ih hs₁ hxs.2
      refine ⟨s₂, ?_, hs₂, hregistry₂.trans hregistry₁, ?_⟩
      · rw [List.foldlM_cons]
        exact bind_eq_ok.2 ⟨s₁, h₁, h₂⟩
      · rw [hwaiting₂, hwaiting₁, List.append_assoc]
        rfl

/-- Going through the first schema that waits lets the schemas inside it wait. -/
theorem Covers.visit {site : Site} {rest : List Site} {s : Survey}
    (hs : s.Covers (.ofDomain domain) meaning T start []) (hwaiting : s.waiting = site :: rest) :
    ∃ s', Survey.visit { s with waiting := rest } site = .ok s'
      ∧ s'.Covers (.ofDomain domain) meaning T start [] ∧ Grows s s'
      ∧ ∃ base, s'.waiting = rest ++ (Draft.draft7.subschemas site.resource.schema).map
          fun x => ⟨base, ⟨.draft7, x⟩⟩ := by
  have hall := hs.waiting
  rw [hwaiting, List.forall_mem_cons] at hall
  obtain ⟨hsite, hrest⟩ := hall
  obtain ⟨base, hbase, hisBase, hown⟩ := exists_enter hweb hT hsite
  obtain ⟨begin, draft, schema⟩ := site
  obtain rfl : draft = .draft7 := hsite.draft
  have hschema := hsite.schema
  have hinside : ∀ x ∈ Draft.draft7.subschemas schema, Surveyed (.ofDomain domain) meaning T x := by
    obtain ⟨-, -, -, hinside⟩ := hschema
    exact hinside
  dsimp only at hbase hown hschema ⊢
  -- What the schema refers to is covered by those inside it, which are about to wait.
  have hopened : Covers (.ofDomain domain) meaning T start (Draft.draft7.subschemas schema)
      { s with waiting := rest } := by
    refine ⟨hrest, hs.pending, hs.met, hs.sound, fun v hv t ht href => ?_⟩
    rcases hs.known v hv t ht href with hfound | ⟨other, hmem, hother⟩ | ⟨x, hx, -⟩
    · exact .inl hfound
    · rw [hwaiting] at hmem
      rcases List.mem_cons.1 hmem with rfl | hmem
      · exact .inr (.inr hother)
      · exact .inr (.inl ⟨other, hmem, hother⟩)
    · cases hx
  have hentered : Covers (.ofDomain domain) meaning T start (Draft.draft7.subschemas schema)
      { s with
        waiting := rest
        registry := (if (Draft.draft7.ownAddress? schema).isSome then
          s.registry.addResource base.text ⟨.draft7, schema⟩ else s.registry).addAnchors base.text
            ⟨.draft7, schema⟩ } := by
    cases haddress : Draft.draft7.ownAddress? schema with
    | none => exact hopened.of_registry_eq rfl
    | some a =>
        obtain ⟨t, ht, hdocument, htext⟩ := hown a haddress
        refine Covers.of_registry_eq (hopened.addResource ?_ ?_) rfl
        · intro u hu huri
          rw [Emitter.uri_injective _ (huri.trans htext)]
          exact ⟨rfl, hdocument⟩
        · exact fun u hu href => .inr (.inr href)
  obtain ⟨s₁, h₁, hnotes, hs₁, -⟩ := hentered.noteAll hweb hT hisBase hschema
  obtain ⟨s₂, h₂, hs₂, hregistry, hwaiting₂⟩ := hs₁.enqueueAll hweb hT hisBase hinside
  refine ⟨s₂, ?_, hs₂, ?_, base, ?_⟩
  · unfold Survey.visit
    exact bind_eq_ok.2 ⟨base, hbase, bind_eq_ok.2 ⟨s₁, h₁, h₂⟩⟩
  · intro address hknown
    rw [hregistry, hnotes.registry]
    show ((if (Draft.draft7.ownAddress? schema).isSome then
      s.registry.addResource base.text ⟨.draft7, schema⟩ else s.registry).resource? address).isSome
    split
    · exact s.registry.isSome_addResource hknown
    · exact hknown
  · rw [hwaiting₂, hnotes.waiting]

/-- Rounds do not run out: those that wait come to their end. -/
theorem Covers.visitAll {rounds : Nat} {s : Survey}
    (hs : s.Covers (.ofDomain domain) meaning T start []) (hrounds : s.size < rounds) :
    ∃ s', Survey.visitAll rounds s = .ok s' ∧ s'.Covers (.ofDomain domain) meaning T start []
      ∧ Grows s s' ∧ s'.waiting = [] := by
  induction rounds generalizing s with
  | zero => exact absurd hrounds (Nat.not_lt_zero _)
  | succ rounds ih =>
      unfold Survey.visitAll
      cases hwaiting : s.waiting with
      | nil => exact ⟨s, rfl, hs, fun _ h => h, hwaiting⟩
      | cons site rest =>
          obtain ⟨s₁, h₁, hs₁, hgrows₁, base, hwaiting₁⟩ := hs.visit hweb hT hwaiting
          have hsize : s₁.size < rounds := by
            have hfewer := Draft.draft7.sum_count_subschemas site.resource.schema
            rw [size_eq, hwaiting, List.map_cons, List.sum_cons] at hrounds
            rw [size_eq, hwaiting₁, List.map_append, List.sum_append, List.map_map]
            change _ + ((Draft.draft7.subschemas site.resource.schema).map Json.count).sum < _
            omega
          obtain ⟨s₂, h₂, hs₂, hgrows₂, hwaiting₂⟩ := ih hs₁ hsize
          exact ⟨s₂, bind_eq_ok.2 ⟨s₁, h₁, h₂⟩, hs₂, hgrows₁.trans hgrows₂, hwaiting₂⟩

end

/-! ## Fetching documents -/

/-- The number of documents at hand that are not known. -/
def missing (documents : List (String × Json)) (s : Survey) : Nat :=
  ((documents.map Prod.fst).toFinset.filter fun address =>
    (s.registry.resource? address).isNone).card

/-- No more documents are missing than there are. -/
theorem missing_le_length (documents : List (String × Json)) (s : Survey) :
    s.missing documents ≤ documents.length :=
  (Finset.card_filter_le _ _).trans ((List.toFinset_card_le _).trans
    (List.length_map Prod.fst).le)

/-- What a larger registry does not know, the smaller one does not. -/
theorem Grows.isNone {s s' : Survey} (h : Grows s s') {address : String}
    (hnone : (s'.registry.resource? address).isNone = true) :
    (s.registry.resource? address).isNone = true := by
  rw [Option.isNone_iff_eq_none] at hnone ⊢
  rw [← Option.not_isSome_iff_eq_none] at hnone ⊢
  exact fun hknown => hnone (h address hknown)

/-- So fewer documents are missing in the larger one. -/
theorem Grows.missing_le {documents : List (String × Json)} {s s' : Survey} (h : Grows s s') :
    s'.missing documents ≤ s.missing documents :=
  Finset.card_le_card (Finset.monotone_filter_right _ fun _ _ => h.isNone)

/-- A document at hand that becomes known is missed no longer. -/
theorem Grows.missing_lt {documents : List (String × Json)} {s s' : Survey} (h : Grows s s')
    {address : String} {schema : Json} (hlookup : documents.lookup address = some schema)
    (hnone : (s.registry.resource? address).isNone = true)
    (hsome : (s'.registry.resource? address).isSome = true) :
    s'.missing documents < s.missing documents := by
  have hmem : address ∈ (documents.map Prod.fst).toFinset :=
    List.mem_toFinset.2 (List.mem_map_of_mem (Table.mem_of_lookup hlookup))
  refine Finset.card_lt_card ⟨Finset.monotone_filter_right _ fun _ _ => h.isNone, fun hsub => ?_⟩
  have hstill := (Finset.mem_filter.1 (hsub (Finset.mem_filter.2 ⟨hmem, hnone⟩))).2
  rw [Option.isNone_iff_eq_none] at hstill
  rw [hstill] at hsome
  cases hsome

/-- Whether a survey is another one with references fetched: nothing has changed, or fewer documents
are missing. -/
structure Fetches (documents : List (String × Json)) (s s' : Survey) : Prop where
  pending : s'.pending = s.pending
  progress : s' = s ∨ s'.missing documents < s.missing documents

/-- Fetching can be done in two steps. -/
theorem Fetches.trans {documents : List (String × Json)} {s s' s'' : Survey}
    (h : Fetches documents s s') (h' : Fetches documents s' s'') : Fetches documents s s'' := by
  refine ⟨h'.pending.trans h.pending, ?_⟩
  rcases h.progress with rfl | hfewer
  · exact h'.progress
  · rcases h'.progress with rfl | hfewer'
    · exact .inr hfewer
    · exact .inr (hfewer'.trans hfewer)

/-- A schema may begin to wait at any time. -/
theorem Covers.await {site : Site} {s : Survey} (hs : s.Covers e meaning T start todo)
    (hsite : site.IsSurveyed e meaning T) :
    Covers e meaning T start todo { s with waiting := s.waiting ++ [site] } := by
  refine ⟨?_, hs.pending, hs.met, hs.sound, fun v hv t ht href => ?_⟩
  · exact List.forall_mem_append.2 ⟨hs.waiting, List.forall_mem_singleton.2 hsite⟩
  · exact (hs.known v hv t ht href).imp_right
      (.imp_left fun ⟨other, hmem, hother⟩ => ⟨other, List.mem_append_left _ hmem, hother⟩)

/-- A reference that leads to a known document need not be pending. -/
theorem Covers.settle {u : Uri} {us : List Uri} {s : Survey}
    (hs : Covers e meaning T start todo { s with pending := u :: us })
    (hknown : (s.registry.resource? u.text).isSome) :
    Covers e meaning T start todo { s with pending := us } := by
  have hfound {t : String} (ht : Found e t { s with pending := u :: us }) :
      Found e t { s with pending := us } := by
    rcases ht with ht | ⟨w, hw, ht⟩
    · exact .inl ht
    · rcases List.mem_cons.1 hw with rfl | hw
      · rw [ht] at hknown
        exact .inl hknown
      · exact .inr ⟨w, hw, ht⟩
  exact ⟨hs.waiting, fun w hw => hs.pending w (.tail _ hw),
    fun b t ht hmem => hfound (hs.met b t ht hmem), hs.sound,
    fun v hv t ht href => (hs.known v hv t ht href).imp_left hfound⟩

/-- Nothing is left to be done when no schema waits and no reference is pending. -/
theorem run_idle {documents : List (String × Json)} {rounds : Nat} {s : Survey}
    (hwaiting : s.waiting = []) (hpending : s.pending = []) :
    Survey.run documents rounds s = .ok s := by
  cases rounds with
  | zero => rfl
  | succ rounds =>
      unfold Survey.run visitAll
      rw [hwaiting]
      refine bind_eq_ok.2 ⟨s, rfl, ?_⟩
      rw [hpending]
      rfl

section

variable {domain : String} (hweb : IsWebDomain domain) {documents : List (String × Json)}
  (hclosed : (Emitter.ofDomain domain).IsClosed documents meaning T)

include hweb hclosed

/-- A reference that is pending leads to a document that is known, or is at hand. -/
theorem Covers.fetch {u : Uri} {us : List Uri} {s : Survey}
    (hs : Covers (.ofDomain domain) meaning T start [] { s with pending := u :: us }) :
    ∃ s', Survey.fetch documents s u = .ok s'
      ∧ Covers (.ofDomain domain) meaning T start [] { s' with pending := us }
      ∧ Fetches documents s s' := by
  obtain ⟨t, ht, hu⟩ := hs.pending u List.mem_cons_self
  obtain ⟨schema, hschema, hdocument⟩ := hclosed.document t ht
  obtain ⟨u', hu', htext⟩ := (hclosed.isFetched t ht).normal
  obtain rfl : u = u' := Except.ok.inj (hu.symm.trans hu')
  have hfragment := (hweb.resolve_uri hdocument.name hu).2.1
  have hself : u.document = u := by
    unfold Uri.document
    rw [← hfragment]
  unfold Survey.fetch
  dsimp only
  rw [hself]
  -- The document is known, or it is in the table and was missing so far.
  by_cases hknown : (s.registry.resource? u.text).isSome = true
  · rw [if_pos hknown]
    exact ⟨s, rfl, hs.settle hknown, rfl, .inl rfl⟩
  · rw [if_neg hknown, htext, hschema]
    dsimp only
    rw [hdocument.detect, hfragment]
    have hnew : ((s.registry.addResource ((Emitter.ofDomain domain).uri t)
        ⟨.draft7, schema⟩).resource? ((Emitter.ofDomain domain).uri t)).isSome = true :=
      Option.isSome_of_eq_some (s.registry.resource?_addResource_self _)
    have hgrows : Grows s { s with
        registry := s.registry.addResource ((Emitter.ofDomain domain).uri t) ⟨.draft7, schema⟩
        waiting := s.waiting ++ [⟨u, ⟨.draft7, schema⟩⟩] } :=
      fun _ hold => s.registry.isSome_addResource hold
    refine ⟨_, rfl, ?_, rfl, .inr (hgrows.missing_lt hschema ?_ hnew)⟩
    · have hsite : Site.IsSurveyed (.ofDomain domain) meaning T ⟨u, ⟨.draft7, schema⟩⟩ :=
        ⟨rfl, hfragment, fun _ => .inr ⟨t, ht, hu⟩, hclosed.surveyed ht hdocument⟩
      refine settle (u := u) ((hs.await hsite).addResource ?_ ?_) (by rw [htext]; exact hnew)
      · intro t' _ heq
        rw [Emitter.uri_injective _ heq]
        exact ⟨rfl, hdocument⟩
      · exact fun t' _ href =>
          .inr (.inl ⟨_, List.mem_append_right _ (List.mem_singleton.2 rfl), href⟩)
    · rw [htext] at hknown
      exact Option.isNone_iff_eq_none.2 (Option.not_isSome_iff_eq_none.1 hknown)

/-- All references that are pending are fetched, one after the other. -/
theorem Covers.fetchAll {us : List Uri} {s : Survey} (hpending : s.pending = [])
    (hs : Covers (.ofDomain domain) meaning T start [] { s with pending := us }) :
    ∃ s', us.foldlM (Survey.fetch documents) s = .ok s'
      ∧ s'.Covers (.ofDomain domain) meaning T start [] ∧ Fetches documents s s' := by
  induction us generalizing s with
  | nil =>
      rw [← hpending] at hs
      exact ⟨s, rfl, hs, rfl, .inl rfl⟩
  | cons u us ih =>
      obtain ⟨s₁, h₁, hs₁, hfetches₁⟩ := hs.fetch hweb hclosed
      obtain ⟨s₂, h₂, hs₂, hfetches₂⟩ := ih (hfetches₁.pending.trans hpending) hs₁
      refine ⟨s₂, ?_, hs₂, hfetches₁.trans hfetches₂⟩
      rw [List.foldlM_cons]
      exact bind_eq_ok.2 ⟨s₁, h₁, h₂⟩

/-- Rounds do not run out: each of them but the last two finds a document that was missing. -/
theorem Covers.run {rounds : Nat} {s : Survey}
    (hs : s.Covers (.ofDomain domain) meaning T start [])
    (hrounds : s.missing documents + 2 ≤ rounds) :
    ∃ s', Survey.run documents rounds s = .ok s'
      ∧ s'.Covers (.ofDomain domain) meaning T start [] ∧ s'.waiting = [] ∧ s'.pending = [] := by
  induction rounds generalizing s with
  | zero => exact absurd hrounds (Nat.not_succ_le_zero _)
  | succ rounds ih =>
      obtain ⟨s₁, h₁, hs₁, hgrows, hwaiting⟩ :=
        hs.visitAll hweb (fun t ht => ⟨hclosed.name ht, hclosed.isFetched t ht⟩)
          (Nat.lt_succ_self _)
      -- Nothing is pending, and the survey is at its end.
      unfold Survey.run
      cases hpending : s₁.pending with
      | nil =>
          refine ⟨s₁, bind_eq_ok.2 ⟨s₁, h₁, ?_⟩, hs₁, hwaiting, hpending⟩
          rw [hpending]
          rfl
      | cons u us =>
          have hreversed : Covers (.ofDomain domain) meaning T start []
              { s₁ with pending := s₁.pending.reverse } := by
            have hnotes : Notes s₁ { s₁ with pending := s₁.pending.reverse } :=
              ⟨rfl, rfl, List.subset_reverse.2 (List.Subset.refl _)⟩
            exact hs₁.notes hnotes (fun w hw => hs₁.pending w (List.mem_reverse.1 hw))
              fun b t ht hmem => hnotes.found (hs₁.met b t ht hmem)
          have hempty : ({ s₁ with pending := [] } : Survey).pending = [] := rfl
          obtain ⟨s₂, h₂, hs₂, hfetches⟩ := Covers.fetchAll hweb hclosed hempty hreversed
          have hrun : ∃ s', Survey.run documents rounds s₂ = .ok s'
              ∧ s'.Covers (.ofDomain domain) meaning T start [] ∧ s'.waiting = []
              ∧ s'.pending = [] := by
            -- The round has found a document that was missing, or it has changed nothing, and then
            -- the next one is idle.
            rcases hfetches.progress with rfl | hfewer
            · have hidle : ({ s₁ with pending := [] } : Survey).waiting = [] := hwaiting
              exact ⟨_, run_idle hidle hempty, hs₂, hwaiting, rfl⟩
            · refine ih hs₂ ?_
              have hle : s₁.missing documents ≤ s.missing documents := hgrows.missing_le
              have hlt : s₂.missing documents < s₁.missing documents := hfewer
              omega
          obtain ⟨s', h', hs', hidle⟩ := hrun
          refine ⟨s', bind_eq_ok.2 ⟨s₁, h₁, ?_⟩, hs', hidle⟩
          rw [hpending]
          rw [hpending] at h₂
          exact bind_eq_ok.2 ⟨s₂, h₂, h'⟩

end

end Survey

/-! ## What is collected -/

/-- Whether a registry holds the documents of the types that a schema refers to, and of those that
these refer to. -/
structure Registry.IsFull (e : Emitter) (meaning : String → Option Demand) (T : String → Prop)
    (start : Json) (r : Registry) : Prop where
  sound : ∀ t, T t → ∀ resource, r.resource? (e.uri t) = some resource →
    resource.draft = .draft7 ∧ e.Describes meaning t resource.schema
  start : ∀ t, T t → RefersInside e t start → (r.resource? (e.uri t)).isSome
  targets : ∀ t, T t → (r.resource? (e.uri t)).isSome → ∀ demand, meaning t = some demand →
    ∀ u ∈ demand.targets, T u → (r.resource? (e.uri u)).isSome

/-- A survey at its end knows all documents that are referred to. -/
theorem Survey.Covers.isFull {start : Json} {s : Survey} (hs : s.Covers e meaning T start [])
    (hwaiting : s.waiting = []) (hpending : s.pending = []) :
    s.registry.IsFull e meaning T start := by
  have hknown {v : Json} (hv : s.Knows e T start v) {t : String} (ht : T t)
      (href : RefersInside e t v) : (s.registry.resource? (e.uri t)).isSome := by
    rcases hs.known v hv t ht href with (hfound | ⟨u, hu, -⟩) | ⟨site, hsite, -⟩ | ⟨x, hx, -⟩
    · exact hfound
    · rw [hpending] at hu
      cases hu
    · rw [hwaiting] at hsite
      cases hsite
    · cases hx
  refine ⟨hs.sound, fun t ht href => hknown (.inl rfl) ht href, ?_⟩
  intro t ht hsome demand hdemand u hu hTu
  obtain ⟨resource, hresource⟩ := Option.isSome_iff_exists.1 hsome
  refine hknown (.inr ⟨t, resource, ht, hresource, rfl⟩) hTu ?_
  exact ((hs.sound t ht resource hresource).2.refersInside_iff hdemand).2 hu

/-- The schema language keeps the addresses of its own documents for itself. -/
theorem MetaSchema.isSpecification_of_resource {address : String} {resource : Resource}
    (h : registry.resource? address = some resource) : Draft.isSpecification address = true := by
  have hall : ∀ entry ∈ registry.resources, Draft.isSpecification entry.1 = true := by
    decide +kernel
  exact hall _ (Table.mem_of_lookup h)

section

variable {domain : String} (hweb : IsWebDomain domain) {documents : List (String × Json)}
  (hclosed : (Emitter.ofDomain domain).IsClosed documents meaning T)

include hweb hclosed

/-- The address of a schema by itself is found. It is the address of a type only where the schema is
the document of the type. -/
theorem Surveyed.exists_address {v : Json} (hv : Surveyed (.ofDomain domain) meaning T v) :
    ∃ base, Site.address ⟨.draft7, v⟩ = .ok base ∧ base.fragment = none
      ∧ (Draft.draft7.ownAddress? v = none → base = Site.rootBase)
      ∧ ∀ t, T t → base.text = (Emitter.ofDomain domain).uri t →
        (Emitter.ofDomain domain).Describes meaning t v := by
  obtain ⟨hid, -, -, -⟩ := hv
  unfold Site.address
  dsimp only
  -- Without a name the address is that of the root, which is no address of a type.
  rcases hid with hnone | ⟨t, ht, hdocument⟩
  · rw [hnone]
    refine ⟨_, rfl, rfl, fun _ => rfl, fun t ht htext => ?_⟩
    refine absurd ?_ (not_isAddressOf_rootBase (hclosed.name ht))
    rw [htext]
    exact Emitter.isAddressOf_uri _ _
  · rw [hdocument.ownAddress? hweb]
    obtain ⟨u, hu, -⟩ := (hclosed.isFetched t ht).normal
    obtain ⟨r, -, hparse, -, -⟩ := (hweb.resolve_uri_eq_ok hdocument.name).1 hu
    obtain ⟨hscheme, -, hfragment, -⟩ := hweb.of_parse_uri hdocument.name hparse
    have hbase : Site.ofText ((Emitter.ofDomain domain).uri t) = .ok r.normalized := by
      unfold Site.ofText
      rw [hparse]
      exact if_pos hscheme
    refine ⟨_, hbase, ?_, nofun, fun t' ht' htext => ?_⟩
    · show r.fragment.map _ = none
      rw [hfragment]
      rfl
    · have haddress := hweb.ofText_uri hdocument.name hbase
      rw [htext] at haddress
      rw [IsAddressOf.unique (hclosed.name ht') hdocument.name (Emitter.isAddressOf_uri _ _)
        haddress]
      exact hdocument

/-- All documents that are reached are collected. -/
theorem exists_collect {v : Json} (hv : Surveyed (.ofDomain domain) meaning T v) :
    ∃ r, Registry.collect MetaSchema.registry documents ⟨.draft7, v⟩ = .ok r
      ∧ r.IsFull (.ofDomain domain) meaning T v := by
  obtain ⟨base, hbase, hfragment, hroot, haddress⟩ := hv.exists_address hweb hclosed
  have hlookup {t : String} (ht : T t) {resource : Resource}
      (hresource : (MetaSchema.registry.addResource base.text ⟨.draft7, v⟩).resource?
        ((Emitter.ofDomain domain).uri t) = some resource) :
      resource = ⟨.draft7, v⟩ ∧ (Emitter.ofDomain domain).Describes meaning t v := by
    by_cases heq : (Emitter.ofDomain domain).uri t = base.text
    · rw [heq, MetaSchema.registry.resource?_addResource_self] at hresource
      exact ⟨(Option.some.inj hresource).symm, haddress t ht heq.symm⟩
    · rw [MetaSchema.registry.resource?_addResource_of_ne _ heq] at hresource
      have hspec := MetaSchema.isSpecification_of_resource hresource
      rw [(hclosed.isFetched t ht).foreign] at hspec
      cases hspec
  have hbegin : Survey.Covers (.ofDomain domain) meaning T v []
      ⟨MetaSchema.registry.addResource base.text ⟨.draft7, v⟩, [⟨base, ⟨.draft7, v⟩⟩], [], []⟩ := by
    refine ⟨List.forall_mem_singleton.2 ?_, nofun, nofun, ?_, ?_⟩
    · exact ⟨rfl, hfragment, fun hnone => .inl (hroot hnone), hv⟩
    · intro t ht resource hresource
      obtain ⟨rfl, hdocument⟩ := hlookup ht hresource
      exact ⟨rfl, hdocument⟩
    · intro x hx t _ href
      obtain rfl : x = v := by
        rcases hx with rfl | ⟨t', resource, ht', hresource, rfl⟩
        · rfl
        · rw [(hlookup ht' hresource).1]
      exact .inr (.inl ⟨_, List.mem_singleton.2 rfl, href⟩)
  obtain ⟨s, hs, hcovers, hwaiting, hpending⟩ := hbegin.run hweb hclosed
    (Nat.add_le_add_right (Survey.missing_le_length documents _) 2)
  refine ⟨s.registry, ?_, hcovers.isFull hwaiting hpending⟩
  unfold Registry.collect
  refine bind_eq_ok.2 ⟨base, hbase, ?_⟩
  unfold Registry.addDocument
  exact bind_eq_ok.2 ⟨s, hs, rfl⟩

end

end TypeCatalog
