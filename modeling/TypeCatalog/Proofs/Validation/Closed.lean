import Mathlib.Algebra.BigOperators.Group.List.Basic
import Mathlib.Algebra.Order.BigOperators.Group.List
import TypeCatalog.Proofs.Validation.Following
import TypeCatalog.Proofs.Validation.Standing
import TypeCatalog.Proofs.Validation.Twice

/-!
# Tables that are closed

The references of a plain document lead to finitely many targets: the places that references name,
in the documents of the registry. There are fewer of them than rounds, so that the rounds of a
reading do not run out, and all that a validator refers to stands in its table
(`Reader.isClosed_of_validator`).

The invariant of the reading is `Reader.Closes`: what was opened since is defined, and whatever is
defined refers to what was opened.

The reading is `Reader.follow`, which opens a target, reads the schema there with all that it refers
to, and defines it at the end. `HasRoom` counts what may still be opened, and `Closes` is what one
call of `follow` keeps.
-/

set_option autoImplicit false

namespace TypeCatalog

open Result

/-- Whether all references of a validator are of some kind, and lead to targets in its table. -/
structure Validator.IsClosed (v : Validator) (inside : Link → Prop) : Prop where
  schema : v.schema.Uses (fun l => inside l ∧ l.target ∈ v.definitions.map Prod.fst)
    fun l => inside l ∧ l.target ∈ v.definitions.map Prod.fst
  definitions : ∀ d ∈ v.definitions,
    d.2.Uses (fun l => inside l ∧ l.target ∈ v.definitions.map Prod.fst)
      fun l => inside l ∧ l.target ∈ v.definitions.map Prod.fst

namespace Reader

variable {r : Reader}

/-! ## References that stay inside -/

/-- Whether the references that are met on the way through a schema are of some kind, and these are
all references of what is read. -/
def ReadsInside (r : Reader) (inside : Link → Prop) (place : Place) (v : Json) : Prop :=
  ∀ follow p s q, body r follow place v p = .ok (s, q) → ∀ P : Link → Prop,
    ∃ ls, Follows follow ls p q ∧ (∀ l ∈ ls, inside l) ∧ ((∀ l ∈ ls, P l) → s.Uses P P)

/-- Whether references of some kind lead to given targets by themselves, and what stands there has
no other references. -/
structure StaysInside (r : Reader) (inside : Link → Prop) (targets : List Target) : Prop where
  mem : ∀ l, inside l → l.target ∈ targets
  kind : ∀ l, inside l → l.kind = .fixed
  reads : ∀ l site, inside l → r.registry.site l.target = .ok site →
    r.ReadsInside inside (.ofSite site) site.resource.schema

/-! ## Progress -/

/-- Whether what is opened are different ones of some targets, and there are rounds left to open all
others. -/
structure HasRoom (targets : List Target) (rounds : Nat) (p : Progress) : Prop where
  nodup : p.opened.Nodup
  subset : p.opened ⊆ targets
  enough : targets.length < p.opened.length + rounds

/-- Rounds do not run out. -/
theorem HasRoom.rounds_ne_zero {targets : List Target} {rounds : Nat} {p : Progress}
    (h : HasRoom targets rounds p) : rounds ≠ 0 := by
  rintro rfl
  exact absurd (h.enough.trans_le (h.nodup.length_le_of_subset h.subset)) (Nat.lt_irrefl _)

/-- Opening a new target uses up one of the rounds. -/
theorem HasRoom.open {targets : List Target} {rounds : Nat} {p : Progress} {t : Target}
    (h : HasRoom targets (rounds + 1) p) (ht : t ∈ targets) (hnew : t ∉ p.opened) :
    HasRoom targets rounds { p with opened := t :: p.opened } := by
  refine ⟨List.nodup_cons.2 ⟨hnew, h.nodup⟩, List.cons_subset.2 ⟨ht, h.subset⟩, ?_⟩
  have henough := h.enough
  rw [List.length_cons]
  omega

/-- Whether the references of a table are of some kind and lead to opened targets. -/
def Refers (inside : Link → Prop) (opened : List Target)
    (definitions : List (Target × Schema)) : Prop :=
  ∀ d ∈ definitions, d.2.Uses (fun l => inside l ∧ l.target ∈ opened)
    fun l => inside l ∧ l.target ∈ opened

/-- What refers to opened targets still does so when more are opened. -/
theorem Refers.mono {inside : Link → Prop} {opened others : List Target}
    {definitions : List (Target × Schema)} (h : Refers inside opened definitions)
    (hsub : opened ⊆ others) : Refers inside others definitions := fun d hd =>
  (h d hd).imp (fun _ hl => ⟨hl.1, hsub hl.2⟩) fun _ hl => ⟨hl.1, hsub hl.2⟩

/-- What a way of following references keeps. -/
structure Closes (inside : Link → Prop) (targets : List Target) (rounds : Nat) (p q : Progress) :
    Prop where
  room : HasRoom targets rounds q
  grows : Grows p q
  refers : Refers inside q.opened q.definitions

section

variable {inside : Link → Prop} {targets : List Target}

/-- References that are followed one after the other keep what following each of them keeps. -/
theorem closes_of_follows {follow : Target → ReadM Unit} {rounds : Nat} {ls : List Link}
    {p q : Progress} (hls : Follows follow ls p q) (hinside : ∀ l ∈ ls, inside l)
    (hfollow : ∀ l, inside l → ∀ p q, HasRoom targets rounds p →
      Refers inside p.opened p.definitions → follow l.target p = .ok ((), q) →
        Closes inside targets rounds p q ∧ l.target ∈ q.opened)
    (hroom : HasRoom targets rounds p) (hrefers : Refers inside p.opened p.definitions) :
    Closes inside targets rounds p q ∧ ∀ l ∈ ls, l.target ∈ q.opened := by
  induction hls with
  | nil p => exact ⟨⟨hroom, .refl p, hrefers⟩, nofun⟩
  | cons hl hls ih =>
      rw [List.forall_mem_cons] at hinside
      obtain ⟨hcloses, hopened⟩ := hfollow _ hinside.1 _ _ hroom hrefers hl
      obtain ⟨hrest, hall⟩ := ih hinside.2 hcloses.room hcloses.refers
      refine ⟨⟨hrest.room, hcloses.grows.trans hrest.grows, hrest.refers⟩, ?_⟩
      exact List.forall_mem_cons.2 ⟨hrest.grows.opened.subset hopened, hall⟩

variable (hstays : r.StaysInside inside targets)

include hstays

/-- Following a reference opens its target, and defines all that is opened on the way. -/
theorem closes_of_follow {rounds : Nat} {l : Link} {p q : Progress} (hl : inside l)
    (hroom : HasRoom targets rounds p) (hrefers : Refers inside p.opened p.definitions)
    (h : r.follow rounds l.target p = .ok ((), q)) :
    Closes inside targets rounds p q ∧ l.target ∈ q.opened := by
  -- The induction is on the rounds. Each of them opens a target, so there is one left as long as
  -- there is a target that was not opened.
  induction rounds generalizing l p q with
  | zero => exact absurd rfl hroom.rounds_ne_zero
  | succ rounds ih =>
      unfold follow at h
      obtain ⟨p₁, p₂, hget, h⟩ := ReadM.bind_eq_ok.1 h
      cases hget
      by_cases hopen : p.opened.contains l.target = true
      -- A target that is open is not opened again, which is where circles end.
      · rw [if_pos hopen] at h
        cases h
        exact ⟨⟨hroom, .refl p, hrefers⟩, List.contains_iff_mem.1 hopen⟩
      · rw [if_neg hopen] at h
        obtain ⟨_, p₃, hmodify, h⟩ := ReadM.bind_eq_ok.1 h
        cases hmodify
        obtain ⟨site, p₄, hsite, h⟩ := ReadM.bind_eq_ok.1 h
        obtain ⟨hfound, rfl⟩ := ReadM.lift_eq_ok.1 hsite
        obtain ⟨s, p₅, hbody, h⟩ := ReadM.bind_eq_ok.1 h
        cases h
        have hnew : l.target ∉ p.opened := fun hmem => hopen (List.contains_iff_mem.2 hmem)
        obtain ⟨ls, hfollows, hinside, huses⟩ := hstays.reads l site hl hfound _ _ _ _ hbody
          fun l => inside l ∧ l.target ∈ p₅.opened
        obtain ⟨hcloses, hall⟩ := closes_of_follows hfollows hinside
          (fun l hl p q hp hs hrun => ih hl hp hs hrun) (hroom.open (hstays.mem l hl) hnew)
          (hrefers.mono (List.subset_cons_self _ _))
        refine ⟨⟨⟨hcloses.room.nodup, hcloses.room.subset,
          hcloses.room.enough.trans_le (Nat.le_succ _)⟩, ?_, ?_⟩,
          hcloses.grows.opened.subset List.mem_cons_self⟩
        · refine ⟨(List.suffix_cons _ _).trans hcloses.grows.opened, fun t ht => ?_,
            hcloses.grows.definitions.trans (List.suffix_cons _ _)⟩
          -- The target itself was opened first and is defined last.
          rcases hcloses.grows.defined t ht with hmem | hmem
          · rcases List.mem_cons.1 hmem with rfl | hmem
            · exact .inr List.mem_cons_self
            · exact .inl hmem
          · exact .inr (.tail _ hmem)
        · exact List.forall_mem_cons.2 ⟨huses fun l hl => ⟨hinside l hl, hall l hl⟩,
            hcloses.refers⟩

/-- All that a validator refers to stands in its table, if there are more rounds than targets. -/
theorem isClosed_of_staysInside (hrounds : targets.length < r.rounds) {document : Resource}
    (hreads : ∀ base entered, Site.address document = .ok base →
      Site.enter base document = .ok entered → r.ReadsInside inside
        ⟨entered, document.draft, document.draft.vocabulariesOf document.schema⟩ document.schema)
    {v : Validator} (h : r.validator document = .ok v) : v.IsClosed inside := by
  unfold validator at h
  obtain ⟨base, hbase, h⟩ := bind_eq_ok.1 h
  obtain ⟨entered, hentered, h⟩ := bind_eq_ok.1 h
  obtain ⟨⟨s, p⟩, hbody, h⟩ := bind_eq_ok.1 h
  cases h
  obtain ⟨ls, hfollows, hinside, huses⟩ := hreads base entered hbase hentered _ _ _ _ hbody
    fun l => inside l ∧ l.target ∈ p.opened
  have hroom : HasRoom targets r.rounds default :=
    ⟨List.nodup_nil, List.nil_subset _, by rwa [← Nat.zero_add r.rounds] at hrounds⟩
  obtain ⟨hcloses, hall⟩ := closes_of_follows hfollows hinside
    (fun l hl p q hp hs hrun => closes_of_follow hstays hl hp hs hrun) hroom nofun
  have hschema := huses fun l hl => ⟨hinside l hl, hall l hl⟩
  have hdefined : ∀ l : Link, inside l ∧ l.target ∈ p.opened →
      inside l ∧ l.target ∈ p.definitions.map Prod.fst := fun l hl =>
    ⟨hl.1, (hcloses.grows.defined _ hl.2).resolve_left nofun⟩
  rw [complete_of_fixed
    (fun l hl => hstays.kind l (Schema.of_mem_links s hschema l hl).1)
    fun d hd l hl => hstays.kind l (Schema.of_mem_links d.2 (hcloses.refers d hd) l hl).1]
  exact ⟨hschema.imp hdefined hdefined, fun d hd => (hcloses.refers d hd).imp hdefined hdefined⟩

end

end Reader

/-! ## The places of a registry -/

/-- There is a round for each value and each document that it may be read in. -/
theorem Reader.rounds_eq (r : Reader) : r.rounds
    = (r.registry.resources.map fun entry => entry.2.schema.count).sum
      * (r.registry.resources.length + 1) + 1 := by
  have hsize (resources : List (String × Resource)) (n : Nat) :
      resources.foldl (fun n entry => n + entry.2.schema.count) n
        = n + (resources.map fun entry => entry.2.schema.count).sum := by
    induction resources generalizing n with
    | nil => rfl
    | cons entry resources ih =>
        rw [List.foldl_cons, ih, List.map_cons, List.sum_cons, Nat.add_assoc]
  unfold Reader.rounds
  dsimp only
  rw [hsize, Nat.zero_add]

namespace Registry

/-- The texts that the documents of a registry refer to. -/
def references (r : Registry) : List String := r.resources.flatMap fun d => d.2.schema.references

/-- The places that references name, in all documents. -/
def places (r : Registry) : List Target :=
  r.resources.flatMap fun d => r.references.map fun s => .within d.1 (fragmentOf s)

/-- Whether a reference finds a place in a document that is not reserved, and by itself. -/
structure LeadsInside (r : Registry) (l : Link) : Prop where
  kind : l.kind = .fixed
  target : ∃ address, ∃ s ∈ r.references, l.target = .within address (fragmentOf s)
  reserved : ¬ Site.IsReserved l.target.address
  found : ∃ found, r.find l.target = .ok found

/-- A link inside of the registry leads to one of its places. -/
theorem LeadsInside.mem_places {r : Registry} {l : Link} (h : r.LeadsInside l) :
    l.target ∈ r.places := by
  obtain ⟨address, s, hs, htarget⟩ := h.target
  obtain ⟨found, hfound⟩ := h.found
  obtain ⟨resource, hresource⟩ := resource?_of_find hfound
  rw [htarget] at hresource ⊢
  exact List.mem_flatMap.2 ⟨_, Table.mem_of_lookup hresource, List.mem_map_of_mem hs⟩

/-- There are fewer places than rounds. -/
theorem length_places_lt (r : Reader) : r.registry.places.length < r.rounds := by
  have hcount : r.registry.resources.length
      ≤ (r.registry.resources.map fun entry => entry.2.schema.count).sum := by
    rw [← List.length_map (f := fun entry => entry.2.schema.count)]
    exact List.length_le_sum_of_one_le _ fun n hn => by
      obtain ⟨entry, -, rfl⟩ := List.mem_map.1 hn
      exact entry.2.schema.count_pos
  have hreferences : r.registry.references.length
      ≤ (r.registry.resources.map fun entry => entry.2.schema.count).sum := by
    unfold references
    rw [List.length_flatMap]
    refine List.sum_le_sum fun entry _ => ?_
    exact (List.length_filterMap_le _ _).trans (Json.length_objects_le _)
  have hlength : r.registry.places.length
      = r.registry.resources.length * r.registry.references.length := by
    unfold places
    simp [List.length_flatMap]
  rw [hlength, Reader.rounds_eq, Nat.lt_succ_iff]
  calc r.registry.resources.length * r.registry.references.length
      ≤ r.registry.resources.length
          * (r.registry.resources.map fun entry => entry.2.schema.count).sum :=
        Nat.mul_le_mul_left _ hreferences
    _ ≤ (r.registry.resources.map fun entry => entry.2.schema.count).sum
          * (r.registry.resources.length + 1) := by
        rw [Nat.mul_comm]
        exact Nat.mul_le_mul_left _ (Nat.le_succ _)

end Registry

/-! ## Plain documents -/

namespace Reader

variable {e : Emitter} {documents : List (String × Json)} {start : Json} {registry : Registry}
  {formats : List Format} {checksFormats : Bool}

section

variable (haddresses : e.HasAddresses) (htable : e.IsPlainTable documents)
  (hstart : Survey.IsTame e documents start) (hr : registry.IsCollected e documents start)

include haddresses htable hstart hr

/-- A reference leads by itself to a place in a plain document. -/
theorem stands_of_link {base : Uri} (hbase : ¬ Site.IsReserved base.text) {s : String}
    (hs : e.IsReference s) {l : Link}
    (h : link ⟨registry, formats, checksFormats⟩ base s = .ok l) :
    ∃ address document, l = ⟨base.text, .within address (Registry.fragmentOf s), .fixed⟩
      ∧ ¬ Site.IsReserved address ∧ registry.Stands e.IsReference address document
      ∧ Registry.IsFrom e documents start address document
      ∧ Registry.target base s = .ok (.within address (Registry.fragmentOf s))
      ∧ ∃ found, registry.find (.within address (Registry.fragmentOf s)) = .ok found := by
  obtain ⟨found, htarget, hfound, hlinkBase, hkind⟩ := link_eq_ok h
  obtain ⟨address, hplace, hreserved⟩ : ∃ address,
      l.target = .within address (Registry.fragmentOf s) ∧ ¬ Site.IsReserved address := by
    rcases hs with hlocal | ⟨t, ht, hown, hpoints⟩
    · rw [Registry.target_of_isLocal hlocal] at htarget
      exact ⟨_, (Except.ok.inj htarget).symm, hbase⟩
    · rw [haddresses.target ht hpoints] at htarget
      obtain ⟨u, hu, htarget⟩ := map_eq_ok.1 htarget
      exact ⟨_, htarget.symm, (hown _ (Emitter.text_mem_forms_of_resolve
        (haddresses.resolve t base u ht hu).2.2)).1⟩
  obtain ⟨linkBase, target, kind⟩ := l
  dsimp only at htarget hfound hlinkBase hkind hplace
  subst hlinkBase
  subst hplace
  obtain ⟨document, hstands, hfrom⟩ :=
    hr.stands_of_find haddresses htable hstart hfound hreserved
  obtain ⟨_, w, -, rfl, -⟩ := hstands.find hfound
  obtain rfl : kind = .fixed := hkind
  exact ⟨address, document, rfl, hreserved, hstands, hfrom, htarget, _, hfound⟩

/-- A reference of a resource of the registry leads inside of it. -/
theorem leadsInside_of_link {base : Uri} (hbase : ¬ Site.IsReserved base.text) {s : String}
    (hs : e.IsReference s) (hmem : s ∈ registry.references) {l : Link}
    (h : link ⟨registry, formats, checksFormats⟩ base s = .ok l) : registry.LeadsInside l := by
  obtain ⟨address, document, rfl, hreserved, -, -, -, hfound⟩ :=
    stands_of_link haddresses htable hstart hr hbase hs h
  exact ⟨rfl, ⟨address, s, hmem, rfl⟩, hreserved, hfound⟩

/-- The references of a plain schema lead inside. -/
theorem readsInside_of_hasPlainParts {base : Uri} (hbase : ¬ Site.IsReserved base.text)
    (vocabularies : List Vocabulary) {v : Json} (hv : v.HasPlainParts e.IsReference)
    (hreferences : v.references ⊆ registry.references) :
    ReadsInside ⟨registry, formats, checksFormats⟩ registry.LeadsInside
      ⟨base, .draft7, vocabularies⟩ v := by
  intro follow p s q h P
  have hagree := @agree_body follow registry.LeadsInside P id registry registry formats
    checksFormats follow base base vocabularies _ (fun s hs l l' hl hl' => ?_) v
    (hv.and (P := fun s => s ∈ registry.references) fun s hs => hreferences hs)
  · exact (hagree h h).2
  · refine ⟨Except.ok.inj (hl'.symm.trans hl), ?_⟩
    exact leadsInside_of_link haddresses htable hstart hr hbase hs.1 hs.2 hl

/-- A reader whose references lead inside stays inside. -/
theorem staysInside : StaysInside ⟨registry, formats, checksFormats⟩ registry.LeadsInside
    registry.places where
  mem := fun l hl => hl.mem_places
  kind := fun l hl => hl.kind
  reads := by
    intro l site hl hsite
    obtain ⟨found, hfound, rfl⟩ := map_eq_ok.1 hsite
    obtain ⟨document, hstands, hfrom⟩ :=
      hr.stands_of_find haddresses htable hstart hfound hl.reserved
    obtain ⟨address, s, -, htarget⟩ := hl.target
    rw [htarget] at hfound hstands hfrom
    obtain ⟨base, w, hparse, rfl, hw, hobjects, -⟩ := hstands.find hfound
    refine readsInside_of_hasPlainParts haddresses htable hstart hr
      (hfrom.not_isReserved_of_parse htable hparse) _ hw fun s hs => ?_
    refine List.mem_flatMap.2 ⟨_, Table.mem_of_lookup hstands.resource, ?_⟩
    obtain ⟨ms, hms, htext⟩ := List.mem_filterMap.1 hs
    exact List.mem_filterMap.2 ⟨ms, hobjects hms, htext⟩

/-- All that the validator of a plain document refers to stands in its table. -/
theorem isClosed_of_validator {v : Validator}
    (h : validator ⟨registry, formats, checksFormats⟩ ⟨.draft7, start⟩ = .ok v) :
    v.IsClosed registry.LeadsInside := by
  refine isClosed_of_staysInside (staysInside haddresses htable hstart hr)
    (Registry.length_places_lt ⟨registry, formats, checksFormats⟩)
    (fun base entered hbase hentered => ?_) h
  refine readsInside_of_hasPlainParts haddresses htable hstart hr ?_ _ hstart.parts fun s hs =>
    List.mem_flatMap.2 ⟨_, hr.origin base hbase, hs⟩
  unfold Site.enter at hentered
  unfold Site.address at hbase
  dsimp only at hbase hentered
  rcases hstart.address with hnone | ⟨t, ht, hlookup, hsome⟩
  · rw [hnone] at hbase hentered
    cases hbase
    cases hentered
    exact Site.not_isReserved_rootBase
  · rw [hsome] at hentered
    have hholds := Emitter.Holds.of_lookup ht hlookup
    exact (hholds.isOwn htable _ (Emitter.text_mem_forms_of_resolve
      (haddresses.resolve t base entered ht hentered).2.2)).1

end

end Reader

end TypeCatalog
