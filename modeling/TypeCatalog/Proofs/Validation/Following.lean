import TypeCatalog.Proofs.Validation.Reading
import TypeCatalog.Proofs.Validation.Survey

/-!
# Following references

The reference of a property leads to the document of its type, and a validator has read the
documents of all types that its references lead to. `Reader.Reads` says what a document is read
as, and `Reader.Settled` that of a table of such readings: each belongs to the document at its
target.

`Reader.follow` counts its rounds. They do not run out, since the targets that are opened differ and
each is the address of a document in the registry: `Reader.Fits` is the invariant that says so.

`Reader.link` resolves the text of a reference and asks `Registry.find` for what stands there.
`Reader.body` reads a schema by its keywords, and `reads_of_body` gives it for the two kinds of
documents, those of records and those of one demand on the value alone.
-/

set_option autoImplicit false

namespace TypeCatalog

open Result

/-- Whether the address of a type is apart from those of the documents of the schema language. -/
def Emitter.IsApart (e : Emitter) (t : String) : Prop :=
  ∀ u, Site.resolve Site.rootBase (e.uri t) = .ok u → MetaSchema.registry.resource? u.text = none

instance (e : Emitter) (t : String) : Decidable (e.IsApart t) :=
  decidable_of_iff
    ((Site.resolve Site.rootBase (e.uri t)).toOption.all
      fun u => (MetaSchema.registry.resource? u.text).isNone) (by
    unfold Emitter.IsApart
    cases Site.resolve Site.rootBase (e.uri t) with
    | error fault => simp [Except.toOption]
    | ok u => simp [Except.toOption])

namespace Reader

/-! ## Links -/

/-- Whether a link leads to the document of a type. -/
structure LeadsTo (r : Reader) (e : Emitter) (t : String) (l : Link) : Prop where
  name : Name.IsTypeName t
  kind : l.kind = .fixed
  address : IsAddressOf l.target.address t
  target : ∃ u, Site.resolve Site.rootBase (e.uri t) = .ok u ∧ l.target = .within u.text ""
  isCollected : ∃ resource, r.registry.resource? l.target.address = some resource

variable {r : Reader} {domain : String} {meaning : String → Option Demand}

/-- The link of a reference to a type leads to its document. -/
theorem leadsTo_of_link (hweb : IsWebDomain domain) {base : Uri} {t : String}
    (ht : Name.IsTypeName t) {l : Link}
    (h : r.link base ((Emitter.ofDomain domain).uri t) = .ok l) :
    r.LeadsTo (.ofDomain domain) t l := by
  unfold link at h
  obtain ⟨u, hu, h⟩ := bind_eq_ok.1 h
  rw [hweb.target_uri ht, hu] at h
  obtain ⟨target, htarget, h⟩ := bind_eq_ok.1 h
  cases htarget
  obtain ⟨found, hfound, h⟩ := bind_eq_ok.1 h
  cases h
  obtain ⟨haddress, -, hroot⟩ := hweb.resolve_uri ht hu
  unfold Registry.find at hfound
  -- The link was made, so there is a resource at the address.
  cases hresource : r.registry.resource? (Target.within u.text "").address with
  | none =>
      rw [hresource] at hfound
      cases hfound
  | some resource =>
      rw [hresource] at hfound
      cases hparse : Uri.parse (Target.within u.text "").address with
      | error f =>
          rw [hparse] at hfound
          cases hfound
      | ok uri =>
          rw [hparse] at hfound
          cases hfound
          exact ⟨ht, rfl, haddress, ⟨u, hroot, rfl⟩, resource, hresource⟩

/-- Where a link leads there is the document of its type. -/
theorem LeadsTo.site {t : String} {l : Link} {site : Site}
    (hl : r.LeadsTo (.ofDomain domain) t l) (hapart : (Emitter.ofDomain domain).IsApart t)
    (hholds : r.registry.Holds (.ofDomain domain) meaning)
    (h : r.registry.site l.target = .ok site) :
    site.resource.draft = .draft7
      ∧ (Emitter.ofDomain domain).Describes meaning t site.resource.schema := by
  obtain ⟨u, hu, htarget⟩ := hl.target
  obtain ⟨resource, hresource⟩ := hl.isCollected
  have haddress := hl.address
  unfold Registry.site at h
  obtain ⟨found, hfound, rfl⟩ := map_eq_ok.1 h
  unfold Registry.find at hfound
  rw [hresource] at hfound
  rw [htarget] at hfound hresource haddress
  have hsite : found.1.resource = resource := by
    cases hparse : Uri.parse (Target.within u.text "").address with
    | error f =>
        rw [hparse] at hfound
        cases hfound
    | ok uri =>
        rw [hparse] at hfound
        cases hfound
        rfl
  rw [hsite]
  -- No type has its address among those of the schema language.
  rcases hholds _ _ (Table.mem_of_lookup hresource) with hbuiltIn | ⟨hdraft, t', ht', hdocument⟩
  · exact absurd (List.mem_map_of_mem hbuiltIn)
      (Table.lookup_eq_none_iff_forall.1 (hapart u hu))
  · rw [haddress.unique hl.name hdocument.name ht']
    exact ⟨hdraft, hdocument⟩

/-! ## Readings -/

/-- Whether a schema is what the document of a demand is read as, when its references lead to some
targets. -/
inductive Reads (r : Reader) (e : Emitter) (targets : List Target) : Demand → Schema → Prop where
  | atom {demand : Demand} {siblings : List (String × Json)} {cs : List (Option Constraint)}
      (hatom : ∀ system properties required, demand ≠ .record system properties required)
      (hcs : List.Forall₂ (fun m c => r.constraint? .draft7 siblings m.1 m.2 = .ok c)
        (e.demandMembers demand) cs) :
      Reads r e targets demand (.keywords ((cs.filterMap id).map .constraint))
  | record {system : String} {properties : List Property} {required : List String}
      {ls : List Link}
      (hls : List.Forall₂ (fun p l => r.LeadsTo e (Emitter.propertyTarget system p) l)
        properties ls)
      (htargets : ∀ l ∈ ls, l.target ∈ targets) :
      Reads r e targets (.record system properties required)
        (recordReading properties ls required)

/-- What was read of some targets was read of more. -/
theorem Reads.mono {e : Emitter} {targets others : List Target} {demand : Demand} {s : Schema}
    (h : r.Reads e targets demand s) (hsub : targets ⊆ others) : r.Reads e others demand s := by
  cases h with
  | atom hatom hcs => exact .atom hatom hcs
  | record hls htargets => exact .record hls fun l hl => hsub (htargets l hl)

/-- The references of a reading find their targets by themselves. -/
theorem Reads.kind_of_mem_links {e : Emitter} {targets : List Target} {demand : Demand}
    {s : Schema} (h : r.Reads e targets demand s) {l : Link} (hl : l ∈ s.links) :
    l.kind = .fixed := by
  cases h with
  -- The demand on the value alone has no references, and those of a record are those of its
  -- properties.
  | @atom demand siblings cs hatom hcs =>
      exfalso
      unfold Schema.links at hl
      generalize cs.filterMap id = constraints at hl
      induction constraints with
      | nil => cases hl
      | cons c constraints ih => exact ih hl
  | @record system properties required ls hls htargets =>
      have hlinks : (recordReading properties ls required).links
          = Schema.namedLinks (propertyReadings properties ls) := by
        cases required <;> simp [recordReading, Schema.links, Schema.keywordListLinks,
          Schema.keywordLinks, Schema.patternLinks]
      rw [hlinks] at hl
      clear hlinks htargets
      induction hls with
      | nil => cases hl
      | @cons p l' properties ls hl' hls ih =>
          have hcons : Schema.namedLinks (propertyReadings (p :: properties) (l' :: ls))
              = l' :: Schema.namedLinks (propertyReadings properties ls) := by
            show (propertyReading p.array l').links ++ _ = _
            cases p.array <;> rfl
          rw [hcons, List.mem_cons] at hl
          rcases hl with rfl | hl
          · exact hl'.kind
          · exact ih hl

/-- What the document of a type is read as, with the links that are followed on the way. -/
theorem reads_of_body (hweb : IsWebDomain domain) (place : Place) {follow : Target → ReadM Unit}
    {p q : Progress} {t : String} {schema : Json} {s : Schema} (hdraft : place.draft = .draft7)
    (hdocument : (Emitter.ofDomain domain).Describes meaning t schema)
    (h : r.body follow place schema p = .ok (s, q)) :
    ∃ demand ls, meaning t = some demand ∧ demand.WellFormed ∧ Follows follow ls p q
      ∧ (∀ l ∈ ls, ∃ u ∈ demand.targets, r.LeadsTo (.ofDomain domain) u l)
      ∧ r.Reads (.ofDomain domain) (ls.map (·.target)) demand s := by
  obtain ⟨header, demand, hmeaning, hwellFormed, htargets, rfl⟩ := hdocument.demand
  by_cases hrecord : ∃ system properties required, demand = .record system properties required
  · obtain ⟨system, properties, required, rfl⟩ := hrecord
    have hnames : ∀ p ∈ properties, Name.IsTypeName (Emitter.propertyTarget system p) :=
      fun p hp => htargets _ (List.mem_map.2 ⟨p, hp, rfl⟩)
    obtain ⟨ls, hls, hfollows, rfl⟩ := of_body_record hdraft hwellFormed hnames h
    have hleads : List.Forall₂ (fun p l => r.LeadsTo (.ofDomain domain)
        (Emitter.propertyTarget system p) l) properties ls := by
      clear hfollows hwellFormed hmeaning hdocument h htargets
      induction hls with
      | nil => exact .nil
      | cons hl hls ih =>
          rw [List.forall_mem_cons] at hnames
          exact .cons (leadsTo_of_link hweb hnames.1 hl) (ih hnames.2)
    refine ⟨_, ls, hmeaning, hwellFormed, hfollows, fun l hl => ?_,
      .record hleads fun l hl => List.mem_map_of_mem hl⟩
    obtain ⟨p, hp, hlink⟩ := exists_of_mem_forall₂ hleads hl
    exact ⟨_, List.mem_map_of_mem hp, hlink⟩
  · have hatom : ∀ system properties required, demand ≠ .record system properties required :=
      fun system properties required heq => hrecord ⟨system, properties, required, heq⟩
    obtain ⟨rfl, siblings, cs, hcs, rfl⟩ := of_body_atom hdraft hatom h
    exact ⟨demand, [], hmeaning, hwellFormed, .nil _, nofun, .atom hatom hcs⟩

/-- Whether each schema of a table is what the document at its target is read as, when the
references in the table lead to some targets. -/
def Settled (r : Reader) (e : Emitter) (meaning : String → Option Demand) (targets : List Target)
    (definitions : List (Target × Schema)) : Prop :=
  ∀ d ∈ definitions, ∃ t demand, Name.IsTypeName t ∧ IsAddressOf d.1.address t
    ∧ meaning t = some demand ∧ demand.WellFormed ∧ r.Reads e targets demand d.2

/-- A table that is settled is so with more targets opened. -/
theorem Settled.mono {e : Emitter} {targets others : List Target}
    {definitions : List (Target × Schema)} (h : r.Settled e meaning targets definitions)
    (hsub : targets ⊆ others) : r.Settled e meaning others definitions := by
  intro d hd
  obtain ⟨t, demand, ht, haddress, hmeaning, hwellFormed, hreads⟩ := h d hd
  exact ⟨t, demand, ht, haddress, hmeaning, hwellFormed, hreads.mono hsub⟩

/-- What refers to a type in a settled table is there with a reading of what the type asks for. -/
theorem exists_reads_of_mem_targets {e : Emitter} {definitions : List (Target × Schema)}
    {demand : Demand} {s : Schema} (h : r.Reads e (definitions.map Prod.fst) demand s)
    (hsettled : r.Settled e meaning (definitions.map Prod.fst) definitions) {t : String}
    (ht : t ∈ demand.targets) : ∃ demand', meaning t = some demand'
      ∧ ∃ s, r.Reads e (definitions.map Prod.fst) demand' s := by
  cases h with
  | @atom demand siblings cs hatom hcs =>
      cases demand with
      | record system properties required => exact absurd rfl (hatom system properties required)
      | _ => cases ht
  | @record system properties required ls hls htargets =>
      obtain ⟨p, hp, rfl⟩ := List.mem_map.1 ht
      obtain ⟨i, hi, rfl⟩ := List.mem_iff_getElem.1 hp
      have hlink := hls.get hi (hls.length_eq ▸ hi)
      rw [List.get_eq_getElem, List.get_eq_getElem] at hlink
      obtain ⟨d, hd, htarget⟩ := List.mem_map.1 (htargets _ (List.getElem_mem (hls.length_eq ▸ hi)))
      obtain ⟨t', demand', ht', haddress, hmeaning, -, hreads⟩ := hsettled d hd
      rw [htarget] at haddress
      rw [hlink.address.unique hlink.name ht' haddress]
      exact ⟨demand', hmeaning, d.2, hreads⟩

/-! ## Progress -/

/-- Whether what is opened are different documents of the registry, and whether there are rounds
left to open all others. -/
structure Fits (r : Reader) (rounds : Nat) (p : Progress) : Prop where
  nodup : p.opened.Nodup
  isCollected : p.opened ⊆ r.registry.resources.map fun entry => .within entry.1 ""
  enough : r.registry.resources.length < p.opened.length + rounds

/-- Whether more has been read, and all that was opened since has been defined. -/
structure Grows (p q : Progress) : Prop where
  opened : p.opened <:+ q.opened
  defined : ∀ t ∈ q.opened, t ∈ p.opened ∨ t ∈ q.definitions.map Prod.fst
  definitions : p.definitions <:+ q.definitions

/-- What was opened and defined stays, if nothing happens. -/
theorem Grows.refl (p : Progress) : Grows p p :=
  ⟨List.suffix_refl _, fun _ ht => .inl ht, List.suffix_refl _⟩

/-- And it stays over two steps. -/
theorem Grows.trans {p q s : Progress} (h : Grows p q) (h' : Grows q s) : Grows p s := by
  refine ⟨h.opened.trans h'.opened, fun t ht => ?_, h.definitions.trans h'.definitions⟩
  rcases h'.defined t ht with ht | ht
  · exact (h.defined t ht).imp_right ((h'.definitions.map _).subset ·)
  · exact .inr ht

/-- Rounds do not run out. -/
theorem Fits.rounds_pos {rounds : Nat} {p : Progress} (h : r.Fits rounds p) : rounds ≠ 0 := by
  rintro rfl
  have hlength := h.nodup.length_le_of_subset h.isCollected
  rw [List.length_map] at hlength
  exact absurd (h.enough.trans_le hlength) (Nat.lt_irrefl _)

/-- Opening a document that is not open takes a round. -/
theorem Fits.open {rounds : Nat} {p : Progress} {t : String} {l : Link}
    (h : r.Fits (rounds + 1) p) (hl : r.LeadsTo (.ofDomain domain) t l)
    (hnew : l.target ∉ p.opened) :
    r.Fits rounds { p with opened := l.target :: p.opened } := by
  refine ⟨List.nodup_cons.2 ⟨hnew, h.nodup⟩, List.cons_subset.2 ⟨?_, h.isCollected⟩, ?_⟩
  · obtain ⟨u, -, htarget⟩ := hl.target
    obtain ⟨resource, hresource⟩ := hl.isCollected
    rw [htarget] at hresource ⊢
    exact List.mem_map.2 ⟨_, Table.mem_of_lookup hresource, rfl⟩
  · have henough := h.enough
    rw [List.length_cons]
    omega

/-! ## Following -/

/-- What a way of following references has to keep: the progress it makes settles what it opens. -/
structure Keeps (r : Reader) (e : Emitter) (meaning : String → Option Demand) (rounds : Nat)
    (p q : Progress) : Prop where
  fits : r.Fits rounds q
  grows : Grows p q
  settled : r.Settled e meaning q.opened q.definitions

/-- Links that are followed one after the other keep what following each of them keeps. -/
theorem keeps_of_follows {e : Emitter} {follow : Target → ReadM Unit} {rounds : Nat}
    {targets : List String} {ls : List Link} {p q : Progress} (hls : Follows follow ls p q)
    (hleads : ∀ l ∈ ls, ∃ t ∈ targets, r.LeadsTo e t l)
    (hfollow : ∀ t ∈ targets, ∀ l, r.LeadsTo e t l → ∀ p q, r.Fits rounds p →
      r.Settled e meaning p.opened p.definitions → follow l.target p = .ok ((), q) →
        r.Keeps e meaning rounds p q ∧ l.target ∈ q.opened)
    (hfits : r.Fits rounds p) (hsettled : r.Settled e meaning p.opened p.definitions) :
    r.Keeps e meaning rounds p q ∧ ls.map (·.target) ⊆ q.opened := by
  induction hls with
  | nil p => exact ⟨⟨hfits, .refl p, hsettled⟩, List.nil_subset _⟩
  | cons hl hls ih =>
      rw [List.forall_mem_cons] at hleads
      obtain ⟨⟨t, ht, hlink⟩, hothers⟩ := hleads
      obtain ⟨hkeeps, hopened⟩ := hfollow t ht _ hlink _ _ hfits hsettled hl
      obtain ⟨hrest, hsub⟩ := ih hothers hkeeps.fits hkeeps.settled
      refine ⟨⟨hrest.fits, hkeeps.grows.trans hrest.grows, hrest.settled⟩, ?_⟩
      exact List.cons_subset.2 ⟨hrest.grows.opened.subset hopened, hsub⟩

/-- Following the link of a type opens its document, and settles all that is opened on the way. -/
theorem keeps_of_follow (hweb : IsWebDomain domain)
    (hholds : r.registry.Holds (.ofDomain domain) meaning)
    (hapart : ∀ t demand, meaning t = some demand → ∀ u ∈ demand.targets,
      (Emitter.ofDomain domain).IsApart u)
    {rounds : Nat} {t : String} {l : Link} {p q : Progress}
    (hl : r.LeadsTo (.ofDomain domain) t l) (ht : (Emitter.ofDomain domain).IsApart t)
    (hfits : r.Fits rounds p)
    (hsettled : r.Settled (.ofDomain domain) meaning p.opened p.definitions)
    (h : r.follow rounds l.target p = .ok ((), q)) :
    r.Keeps (.ofDomain domain) meaning rounds p q ∧ l.target ∈ q.opened := by
  -- The induction is on the rounds, each of which opens a target that was not open.
  induction rounds generalizing t l p q with
  | zero => exact absurd rfl hfits.rounds_pos
  | succ rounds ih =>
      unfold follow at h
      obtain ⟨p₁, p₂, hget, h⟩ := ReadM.bind_eq_ok.1 h
      cases hget
      by_cases hopen : p.opened.contains l.target = true
      · rw [if_pos hopen] at h
        cases h
        exact ⟨⟨hfits, .refl p, hsettled⟩, List.contains_iff_mem.1 hopen⟩
      · rw [if_neg hopen] at h
        obtain ⟨_, p₃, hmodify, h⟩ := ReadM.bind_eq_ok.1 h
        cases hmodify
        obtain ⟨site, p₄, hsite, h⟩ := ReadM.bind_eq_ok.1 h
        obtain ⟨hfound, rfl⟩ := ReadM.lift_eq_ok.1 hsite
        obtain ⟨s, p₅, hbody, h⟩ := ReadM.bind_eq_ok.1 h
        cases h
        obtain ⟨hdraft, hdocument⟩ := hl.site ht hholds hfound
        obtain ⟨demand, ls, hmeaning, hwellFormed, hfollows, hleads, hreads⟩ :=
          reads_of_body hweb (.ofSite site) hdraft hdocument hbody
        have hnew : l.target ∉ p.opened := fun hmem => hopen (List.contains_iff_mem.2 hmem)
        obtain ⟨hkeeps, hsub⟩ := keeps_of_follows hfollows hleads
          (fun u hu l hlink p q hp hs hrun => ih hlink (hapart t demand hmeaning u hu) hp hs hrun)
          (hfits.open hl hnew) (hsettled.mono (List.subset_cons_self _ _))
        have hopened : l.target ∈ p₅.opened := hkeeps.grows.opened.subset List.mem_cons_self
        have hfits' : r.Fits (rounds + 1) p₅ :=
          ⟨hkeeps.fits.nodup, hkeeps.fits.isCollected, hkeeps.fits.enough.trans_le (by omega)⟩
        refine ⟨⟨⟨hfits'.nodup, hfits'.isCollected, hfits'.enough⟩, ?_, ?_⟩, hopened⟩
        · refine ⟨(List.suffix_cons _ _).trans hkeeps.grows.opened, fun u hu => ?_,
            hkeeps.grows.definitions.trans (List.suffix_cons _ _)⟩
          -- The document itself was opened first and is defined last.
          rcases hkeeps.grows.defined u hu with hmem | hmem
          · rcases List.mem_cons.1 hmem with rfl | hmem
            · exact .inr List.mem_cons_self
            · exact .inl hmem
          · exact .inr (.tail _ hmem)
        · exact List.forall_mem_cons.2 ⟨⟨t, demand, hl.name, hl.address, hmeaning, hwellFormed,
            hreads.mono hsub⟩, hkeeps.settled⟩

/-! ## Validators -/

/-- A registry has no more documents than a reader has rounds. -/
theorem fits_default (r : Reader) : r.Fits r.rounds default := by
  refine ⟨List.nodup_nil, List.nil_subset _, ?_⟩
  -- Each resource counts at least one value.
  have hsize (n : Nat) : ∀ resources : List (String × Resource),
      n + resources.length ≤ resources.foldl (fun n entry => n + entry.2.schema.count) n := by
    intro resources
    induction resources generalizing n with
    | nil => exact Nat.le_refl _
    | cons entry resources ih =>
        have hcount : 1 ≤ entry.2.schema.count := by
          cases entry.2.schema <;> simp [Json.count]
        exact Nat.le_trans (by rw [List.length_cons]; omega) (ih (n + entry.2.schema.count))
  have hlength := hsize 0 r.registry.resources
  rw [Nat.zero_add] at hlength
  show r.registry.resources.length < 0 + r.rounds
  rw [Nat.zero_add]
  unfold rounds
  calc r.registry.resources.length
      ≤ r.registry.resources.length * (r.registry.resources.length + 1) :=
        Nat.le_mul_of_pos_right _ (Nat.succ_pos _)
    _ ≤ _ := Nat.mul_le_mul_right _ hlength
    _ < _ := Nat.lt_succ_self _

/-- Where all references find their targets by themselves there is nothing left to read. -/
theorem complete_of_fixed {ls : List Link} {p : Progress} (hlinks : ∀ l ∈ ls, l.kind = .fixed)
    (hdefinitions : ∀ d ∈ p.definitions, ∀ l ∈ d.2.links, l.kind = .fixed) (n : Nat) :
    r.complete r.rounds ls n p = p := by
  cases n with
  | zero => rfl
  | succ n =>
      have hcandidates : (ls ++ p.definitions.flatMap fun d => d.2.links).flatMap r.candidates
          = [] := by
        rw [List.flatMap_eq_nil_iff]
        intro l hl
        have hkind : l.kind = .fixed := by
          rcases List.mem_append.1 hl with hl | hl
          · exact hlinks l hl
          · obtain ⟨d, hd, hl⟩ := List.mem_flatMap.1 hl
            exact hdefinitions d hd l hl
        unfold candidates
        rw [hkind]
      unfold complete readCandidates
      rw [hcandidates]
      exact if_pos rfl

/-- The validator of the document of a type has read that document, and the documents of all types
that it leads to. -/
theorem reads_of_validator (hweb : IsWebDomain domain)
    (hholds : r.registry.Holds (.ofDomain domain) meaning)
    (hapart : ∀ t demand, meaning t = some demand → ∀ u ∈ demand.targets,
      (Emitter.ofDomain domain).IsApart u)
    {t : String} {schema : Json} (hdocument : (Emitter.ofDomain domain).Describes meaning t schema)
    {v : Validator} (h : r.validator ⟨.draft7, schema⟩ = .ok v) :
    ∃ demand, meaning t = some demand ∧ demand.WellFormed
      ∧ r.Reads (.ofDomain domain) (v.definitions.map Prod.fst) demand v.schema
      ∧ r.Settled (.ofDomain domain) meaning (v.definitions.map Prod.fst) v.definitions := by
  unfold validator at h
  obtain ⟨base, hbase, h⟩ := bind_eq_ok.1 h
  obtain ⟨entered, hentered, h⟩ := bind_eq_ok.1 h
  obtain ⟨⟨s, p⟩, hbody, h⟩ := bind_eq_ok.1 h
  cases h
  obtain ⟨demand, ls, hmeaning, hwellFormed, hfollows, hleads, hreads⟩ :=
    reads_of_body hweb _ rfl hdocument hbody
  obtain ⟨hkeeps, hsub⟩ := keeps_of_follows hfollows hleads
    (fun u hu l hlink p q hp hs hrun => keeps_of_follow hweb hholds hapart hlink
      (hapart t demand hmeaning u hu) hp hs hrun)
    r.fits_default nofun
  rw [complete_of_fixed (fun l hl => hreads.kind_of_mem_links hl) (fun d hd l hl => ?_)]
  · have hdefined : p.opened ⊆ p.definitions.map Prod.fst := fun u hu =>
      (hkeeps.grows.defined u hu).resolve_left nofun
    exact ⟨demand, hmeaning, hwellFormed, hreads.mono (List.Subset.trans hsub hdefined),
      hkeeps.settled.mono hdefined⟩
  · obtain ⟨u, demand, -, -, -, -, hother⟩ := hkeeps.settled d hd
    exact hother.kind_of_mem_links hl

end Reader

end TypeCatalog
