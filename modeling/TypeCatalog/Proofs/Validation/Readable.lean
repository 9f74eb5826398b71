import TypeCatalog.Proofs.Validation.Closure
import TypeCatalog.Proofs.Validation.Verdict

/-!
# All documents that are collected are read

Reading a document of a batch fails where a reference leads to a document that was not collected, or
where a pattern is none that can be searched for, and nowhere else. When the documents of all types
that are referred to are in the registry (`Registry.IsFull`), each of them is read, and so is a list
schema over one of them. `exists_build` assembles this with `exists_collect` to a validator.

`Reader.Succeeds` is said of a reading that succeeds whatever was read before. With it the order in
which references are followed, and what is open on the way, need not be looked at: following a
reference succeeds for any number of rounds, by induction on that number.

The reading is `Reader.body` with `keyword?` for each member, and `Reader.follow` for a reference.
`Succeeds` is closed under the steps of `ReadM` (`bind`, `map`, `mapM`, `filterMapM`), so each form
of document is a lemma that puts these together.
-/

set_option autoImplicit false

namespace TypeCatalog

open Result

namespace Reader

/-- Whether a reading succeeds, whatever was read before. -/
def Succeeds {α : Type} (x : ReadM α) : Prop := ∀ p, ∃ a q, x p = .ok (a, q)

namespace Succeeds

variable {α β : Type}

/-- To return a value succeeds. -/
theorem pure (a : α) : Succeeds (Pure.pure a) := fun p => ⟨a, p, rfl⟩

/-- What comes to a result can be found out by running the reading. -/
theorem of_isSome {x : ReadM α} (h : ∀ p, (x p).toOption.isSome = true) : Succeeds x := by
  intro p
  obtain ⟨⟨a, q⟩, ha⟩ := Option.isSome_iff_exists.1 (h p)
  exact ⟨a, q, toOption_eq_some.1 ha⟩

/-- One reading after another succeeds if both do. -/
theorem bind {x : ReadM α} {f : α → ReadM β} (hx : Succeeds x) (hf : ∀ a, Succeeds (f a)) :
    Succeeds (x >>= f) := by
  intro p
  obtain ⟨a, p', ha⟩ := hx p
  obtain ⟨b, q, hb⟩ := hf a p'
  exact ⟨b, q, ReadM.bind_eq_ok.2 ⟨a, p', ha, hb⟩⟩

/-- A step that follows no reference hands its value to the next one. -/
theorem bind_lift {x : Except SchemaFault α} {a : α} {f : α → ReadM β} (hx : x = .ok a)
    (hf : Succeeds (f a)) : Succeeds (liftM x >>= f) := by
  intro p
  obtain ⟨b, q, hb⟩ := hf p
  exact ⟨b, q, ReadM.bind_eq_ok.2 ⟨a, p, ReadM.lift_eq_ok.2 ⟨hx, rfl⟩, hb⟩⟩

/-- So does a reading whose result is mapped. -/
theorem map {x : ReadM α} (f : α → β) (hx : Succeeds x) : Succeeds (f <$> x) := by
  rw [map_eq_pure_bind]
  exact hx.bind fun a => .pure (f a)

/-- So does a list of readings. -/
theorem mapM {f : α → ReadM β} {xs : List α} (h : ∀ x ∈ xs, Succeeds (f x)) :
    Succeeds (xs.mapM f) := by
  induction xs with
  | nil => exact .pure []
  | cons x xs ih =>
      rw [List.forall_mem_cons] at h
      rw [List.mapM_cons]
      exact h.1.bind fun y => (ih h.2).bind fun ys => .pure (y :: ys)

/-- And so does one that may leave some of them out. -/
theorem filterMapM {f : α → ReadM (Option β)} {xs : List α} (h : ∀ x ∈ xs, Succeeds (f x)) :
    Succeeds (xs.filterMapM f) := by
  intro p
  induction xs generalizing p with
  | nil => exact ⟨[], p, ReadM.filterMapM_nil_eq_ok.2 ⟨rfl, rfl⟩⟩
  | cons x xs ih =>
      rw [List.forall_mem_cons] at h
      obtain ⟨y, p', hy⟩ := h.1 p
      obtain ⟨ys, q, hys⟩ := ih h.2 p'
      exact ⟨y.toList ++ ys, q, ReadM.filterMapM_cons_eq_ok.2 ⟨y, p', ys, hy, hys, rfl⟩⟩

end Succeeds

/-! ## Schemas -/

variable {r : Reader} {follow : Target → ReadM Unit} {place : Place} {e : Emitter}

/-- Whether the reference to a type becomes a link, and the link can be followed. -/
def CanFollow (r : Reader) (follow : Target → ReadM Unit) (e : Emitter) (base : Uri) (t : String) :
    Prop :=
  ∃ l, r.link base (e.uri t) = .ok l ∧ Succeeds (follow l.target)

/-- A plain schema is read inside of a document as it is by itself. -/
theorem succeeds_inside {v : Json} (hdraft : place.draft = .draft7) (hplain : Plain e v)
    (h : Succeeds (body r follow place v)) : Succeeds (inside r follow place v) :=
  .bind_lift (place.inside_plain hplain hdraft) h

/-- Where there is no reference, the members that the version knows have to be read. -/
theorem succeeds_object {ms : List (String × Json)} (hdraft : place.draft = .draft7)
    (href : ms.find? (·.1 = "$ref") = none)
    (h : ∀ m ∈ ms.filter fun m => Draft.draft7.knows place.vocabularies m.1,
      Succeeds (r.keyword? follow place ms (ms.map (memberOf r follow place))
        (memberOf r follow place m))) :
    Succeeds (body r follow place (.object ms)) := by
  unfold body members
  rw [memberList_eq, find?_memberOf, href, hdraft,
    filter_memberOf r follow place ms (Draft.draft7.knows place.vocabularies)]
  refine .bind (.filterMapM fun m hm => ?_) fun ks => .pure _
  obtain ⟨written, hwritten, rfl⟩ := List.mem_map.1 hm
  exact h written hwritten

/-- A reference is read when it can be followed. -/
theorem succeeds_reference {ms : List (String × Json)} {t : String}
    (hdraft : place.draft = .draft7)
    (hms : ms.find? (·.1 = "$ref") = some ("$ref", .string (e.uri t)))
    (h : CanFollow r follow e place.base t) : Succeeds (body r follow place (.object ms)) := by
  obtain ⟨l, hl, hfollow⟩ := h
  unfold body members
  rw [memberList_eq, find?_memberOf, hms, hdraft]
  refine .bind ?_ fun k => .pure _
  exact .bind_lift hl (hfollow.bind fun _ => .pure _)

/-- A condition on the value alone is read when its constraint is. -/
theorem succeeds_atom {siblings : List (String × Json)} {ms : List Member} {m : String × Json}
    (hdraft : place.draft = .draft7) (hatom : m.1 ∈ Emitter.atomKeywords)
    (h : ∃ c, r.constraint? .draft7 siblings m.1 m.2 = .ok c) :
    Succeeds (r.keyword? follow place siblings ms (memberOf r follow place m)) := by
  obtain ⟨c, hc⟩ := h
  rw [keyword?_atom r follow place hatom, hdraft]
  exact .bind_lift hc (.pure _)

/-- A list of values of a type is read when the reference to the type is. -/
theorem succeeds_list {ms : List (String × Json)} {t : String} (hdraft : place.draft = .draft7)
    (ht : Name.IsTypeName t)
    (hknows : ms.filter (fun m => Draft.draft7.knows place.vocabularies m.1)
      = [("type", .string "array"), ("items", .object [("$ref", .string (e.uri t))])])
    (href : ms.find? (·.1 = "$ref") = none) (h : CanFollow r follow e place.base t) :
    Succeeds (body r follow place (.object ms)) := by
  refine succeeds_object hdraft href ?_
  rw [hknows, List.forall_mem_cons, List.forall_mem_singleton]
  constructor
  · exact succeeds_atom hdraft List.mem_cons_self ⟨_, rfl⟩
  · have hreference : Succeeds (body r follow place (.object [("$ref", .string (e.uri t))])) :=
      succeeds_reference hdraft rfl h
    have hitems := succeeds_inside hdraft (Plain.reference ht) hreference
    show Succeeds (itemsKeyword? place.draft _ (memberOf r follow place ("items", _)))
    unfold itemsKeyword?
    rw [hdraft, if_neg (by decide)]
    exact hitems.bind fun s => .pure _

/-- The schema of a property is read when the reference to its type can be followed. -/
theorem succeeds_propertySchema {system : String} {p : Property} (hdraft : place.draft = .draft7)
    (htarget : Name.IsTypeName (Emitter.propertyTarget system p))
    (h : CanFollow r follow e place.base (Emitter.propertyTarget system p)) :
    Succeeds (inside r follow place (e.propertySchema system p)) := by
  refine succeeds_inside hdraft (Plain.propertySchema htarget) ?_
  rw [Emitter.propertySchema_eq]
  cases p.array with
  | false =>
      rw [if_neg Bool.false_ne_true]
      refine succeeds_reference hdraft ?_ h
      rw [Emitter.find?_summaryMembers_append _ _ fun _ => rfl]
      rfl
  | true =>
      rw [if_pos rfl]
      refine succeeds_list hdraft htarget ?_ ?_ h
      · exact Emitter.filter_summaryMembers_append _ _ fun v =>
          knows_header place.vocabularies _ (by simp)
      · rw [Emitter.find?_summaryMembers_append _ _ fun _ => rfl]
        rfl

/-! ## Documents -/

/-- The conditions of a document that is none of a record are ones that are read. -/
theorem exists_constraint {siblings : List (String × Json)} {demand : Demand}
    (hatom : ∀ system properties required, demand ≠ .record system properties required)
    (hwellFormed : demand.WellFormed) (hsearch : demand.isSearchable = true) {m : String × Json}
    (hm : m ∈ e.demandMembers demand) : ∃ c, r.constraint? .draft7 siblings m.1 m.2 = .ok c := by
  have hbound {name : String} {b : Number}
      (hname : name ∈ ["minimum", "maximum", "exclusiveMinimum", "exclusiveMaximum"]) :
      ∃ c, r.constraint? .draft7 siblings name (.number b) = .ok c := by
    simp only [List.mem_cons, List.not_mem_nil, or_false] at hname
    rcases hname with rfl | rfl | rfl | rfl
    all_goals exact ⟨_, rfl⟩
  -- Each member of each demand is one of these, a bound of a number, a count, or a pattern.
  cases demand with
  | bool =>
      obtain rfl := List.mem_singleton.1 hm
      exact ⟨_, rfl⟩
  | enum values =>
      rcases List.mem_pair.1 hm with rfl | rfl
      · exact ⟨_, rfl⟩
      · exact ⟨_, rfl⟩
  | int low high =>
      simp only [Emitter.demandMembers, List.mem_cons, List.not_mem_nil, or_false] at hm
      rcases hm with rfl | rfl | rfl
      · exact ⟨_, rfl⟩
      · exact hbound (by simp)
      · exact hbound (by simp)
  | float b =>
      simp only [Emitter.demandMembers, List.mem_cons, List.not_mem_nil, or_false] at hm
      rcases hm with rfl | rfl | rfl
      · exact ⟨_, rfl⟩
      · exact hbound (by dsimp only; split <;> simp)
      · exact hbound (by dsimp only; split <;> simp)
  | string b =>
      obtain ⟨hminimum, hmaximum⟩ := hwellFormed
      have hfits : Number.fitsNat64 ↑(b.minimumLength.getD 0) = true := by
        cases hlength : b.minimumLength with
        | none => rfl
        | some k => exact hminimum k hlength
      simp only [Emitter.demandMembers, List.mem_append, List.mem_singleton] at hm
      rcases hm with ((rfl | hm) | rfl) | hm
      · exact ⟨_, rfl⟩
      · split at hm
        · cases hm
        · obtain rfl := List.mem_singleton.1 hm
          exact ⟨_, bind_eq_ok.2 ⟨_, count_ofNat hfits, rfl⟩⟩
      · exact ⟨_, bind_eq_ok.2 ⟨_, count_ofNat hmaximum, rfl⟩⟩
      · split at hm
        · next text hregex =>
            obtain rfl := List.mem_singleton.1 hm
            have hfound : (b.regex.all fun text => (Pattern.Search.compile? text).isSome) = true :=
              hsearch
            rw [hregex] at hfound
            obtain ⟨compiled, hcompile⟩ := Option.isSome_iff_exists.1 hfound
            refine ⟨_, bind_eq_ok.2 ⟨compiled, ?_, rfl⟩⟩
            unfold search
            rw [hcompile]
        · cases hm
  | record system properties required => exact absurd rfl (hatom system properties required)

/-- The keyword that closes a record reads the schemas of the properties. -/
theorem succeeds_additionalProperties {fields : List (String × Json)} {ms : List Member}
    (hdraft : place.draft = .draft7) (hpatterns : Member.find? ms "patternProperties" = none)
    (hproperties : Member.find? ms "properties"
      = some (memberOf r follow place ("properties", .object fields)))
    (h : ∀ m ∈ fields, Succeeds (inside r follow place m.2)) :
    Succeeds (additionalProperties ms
      (memberOf r follow place ("additionalProperties", .bool false))) := by
  have hnamed : Succeeds (memberOf r follow place ("properties", .object fields)).namedSchemas := by
    rw [namedSchemas_memberOf]
    refine .mapM fun x hx => ?_
    obtain ⟨m, hm, rfl⟩ := List.mem_map.1 hx
    exact (h m hm).bind fun s => .pure _
  have hwhole : Succeeds (inside r follow place (.bool false)) :=
    succeeds_inside (e := default) hdraft (.boolean false) (.pure _)
  have hnotAll : (memberOf r follow place ("additionalProperties", .bool false)).written
      ≠ .bool true := by simp [memberOf]
  unfold additionalProperties
  rw [hpatterns, hproperties]
  dsimp only
  rw [if_neg hnotAll]
  refine .bind (.pure _) fun qs => .bind (hnamed.map some) fun ps => ?_
  exact .bind hwhole fun s => .pure _

/-- The document of a record is read when the schemas of its properties are. -/
theorem succeeds_record {t system : String} {header : Header} {properties : List Property}
    {required : List String} (hdraft : place.draft = .draft7)
    (hnodup : (properties.map (·.name)).Nodup)
    (h : ∀ p ∈ properties, Succeeds (inside r follow place (e.propertySchema system p))) :
    Succeeds (body r follow place
      (e.demandSchema t header (.record system properties required))) := by
  refine succeeds_object hdraft Emitter.find?_ref_demandSchema ?_
  rw [filter_knows_append, Emitter.demandMembers_record hnodup]
  have hfind (name : String) (hname : name ∉
      ["$schema", "$id", "title", "description", "deprecated", "examples"]) :=
    @find?_memberOf_append r follow place e t name header (("type", .string "object")
      :: ("additionalProperties", .bool false)
      :: ("properties", .object (properties.map fun p => (p.name, e.propertySchema system p)))
      :: Emitter.requiredMembers required) hname
  have hclosed := hfind "additionalProperties" (by decide)
  have hproperties := hfind "properties" (by decide)
  have hpatterns := hfind "patternProperties" (by decide)
  simp only [List.forall_mem_cons]
  refine ⟨succeeds_atom hdraft List.mem_cons_self ⟨_, rfl⟩, ?_, ?_, fun m hm => ?_⟩
  · refine .bind (succeeds_additionalProperties hdraft ?_ hproperties ?_) fun k => .pure _
    · rw [hpatterns]
      cases required <;> rfl
    · intro m hm
      obtain ⟨p, hp, rfl⟩ := List.mem_map.1 hm
      -- Each property has a schema of its own, which is read.
      exact h p hp
  · -- The properties are taken by the keyword that closes the record.
    show Succeeds (if (Member.find? _ "additionalProperties").any (·.isRestriction) then _ else _)
    rw [hclosed]
    exact .pure none
  · unfold Emitter.requiredMembers at hm
    split at hm
    · cases hm
    · obtain rfl := List.mem_singleton.1 hm
      refine succeeds_atom hdraft (by simp [Emitter.atomKeywords]) ?_
      exact ⟨_, bind_eq_ok.2 ⟨required, texts_ofStrings required, rfl⟩⟩

/-- The document of a type is read when the references to the types of its properties are. -/
theorem succeeds_document {t : String} {header : Header} {demand : Demand}
    (hdraft : place.draft = .draft7) (hwellFormed : demand.WellFormed)
    (hsearch : demand.isSearchable = true) (hnames : ∀ u ∈ demand.targets, Name.IsTypeName u)
    (h : ∀ u ∈ demand.targets, CanFollow r follow e place.base u) :
    Succeeds (body r follow place (e.demandSchema t header demand)) := by
  by_cases hrecord : ∃ system properties required, demand = .record system properties required
  · obtain ⟨system, properties, required, rfl⟩ := hrecord
    refine succeeds_record hdraft hwellFormed fun p hp => ?_
    have hmem : Emitter.propertyTarget system p ∈ properties.map (Emitter.propertyTarget system) :=
      List.mem_map_of_mem hp
    exact succeeds_propertySchema hdraft (hnames _ hmem) (h _ hmem)
  · have hatom : ∀ system properties required, demand ≠ .record system properties required :=
      fun system properties required heq => hrecord ⟨system, properties, required, heq⟩
    refine succeeds_object hdraft Emitter.find?_ref_demandSchema fun m hm => ?_
    rw [filter_knows_append] at hm
    refine succeeds_atom hdraft ?_ (exists_constraint hatom hwellFormed hsearch hm)
    exact (Emitter.mem_demandMembers hm).resolve_right
      fun ⟨system, properties, required, heq, _⟩ => hatom system properties required heq

/-! ## Following references -/

section

variable {domain : String} (hweb : IsWebDomain domain)

include hweb

/-- What is held at the address of a type is found. -/
theorem exists_find {t : String} (ht : Name.IsTypeName t)
    (hfetched : (Emitter.ofDomain domain).IsFetched t) {resource : Resource}
    (hknown : r.registry.resource? ((Emitter.ofDomain domain).uri t) = some resource) :
    ∃ base, base.fragment = none
      ∧ r.registry.find (.within ((Emitter.ofDomain domain).uri t) "")
        = .ok (⟨base, resource⟩, false) := by
  obtain ⟨u, hu, -⟩ := hfetched.normal
  obtain ⟨base, -, hparse, -, -⟩ := (hweb.resolve_uri_eq_ok ht).1 hu
  refine ⟨base, (hweb.of_parse_uri ht hparse).2.2.1, ?_⟩
  unfold Registry.find Target.within
  dsimp only
  rw [hknown, hparse]
  rfl

/-- A reference to a type whose document was collected becomes a link to the document. -/
theorem canFollow {base : Uri} (hbase : base.fragment = none) {t : String}
    (ht : Name.IsTypeName t) (hfetched : (Emitter.ofDomain domain).IsFetched t)
    (hknown : (r.registry.resource? ((Emitter.ofDomain domain).uri t)).isSome)
    (h : Succeeds (follow (.within ((Emitter.ofDomain domain).uri t) ""))) :
    r.CanFollow follow (.ofDomain domain) base t := by
  obtain ⟨resource, hresource⟩ := Option.isSome_iff_exists.1 hknown
  obtain ⟨u, hu, htext⟩ := hfetched.normal
  rw [← hweb.resolve_uri_eq ht hbase] at hu
  obtain ⟨found, -, hfind⟩ := exists_find hweb ht hfetched hresource
  refine ⟨_, bind_eq_ok.2 ⟨u, hu, bind_eq_ok.2 ⟨_, ?_, bind_eq_ok.2 ⟨_, hfind, rfl⟩⟩⟩, h⟩
  rw [hweb.target_uri ht, hu, ← htext]
  rfl

variable {meaning : String → Option Demand} {T : String → Prop}
  {documents : List (String × Json)}
  (hclosed : (Emitter.ofDomain domain).IsClosed documents meaning T)
  (hsearch : ∀ t, T t → ∀ demand, meaning t = some demand → demand.isSearchable = true)
  {start : Json} (hfull : r.registry.IsFull (.ofDomain domain) meaning T start)

include hclosed hsearch hfull

/-- Following the reference to a type succeeds, however many rounds there are. -/
theorem succeeds_follow {rounds : Nat} {t : String} (ht : T t)
    (hknown : (r.registry.resource? ((Emitter.ofDomain domain).uri t)).isSome) :
    Succeeds (r.follow rounds (.within ((Emitter.ofDomain domain).uri t) "")) := by
  -- With no rounds left nothing is read. With one more the document at the target is, as its
  -- references can be followed for the rounds before.
  induction rounds generalizing t with
  | zero => exact .pure ()
  | succ rounds ih =>
      obtain ⟨resource, hresource⟩ := Option.isSome_iff_exists.1 hknown
      obtain ⟨base, hbase, hfind⟩ :=
        exists_find hweb (hclosed.name ht) (hclosed.isFetched t ht) hresource
      obtain ⟨hdraft, hdocument⟩ := hfull.sound t ht resource hresource
      obtain ⟨header, demand, hmeaning, hwellFormed, hnames, hschema⟩ := hdocument.demand
      have hbody : Succeeds (body r (r.follow rounds) (.ofSite ⟨base, resource⟩)
          resource.schema) := by
        rw [hschema]
        refine succeeds_document hdraft hwellFormed (hsearch t ht demand hmeaning) hnames ?_
        intro u hu
        have hTu := hclosed.targets t ht demand hmeaning u hu
        have hknownTarget := hfull.targets t ht hknown demand hmeaning u hu hTu
        exact canFollow hweb hbase (hclosed.name hTu) (hclosed.isFetched u hTu) hknownTarget
          (ih hTu hknownTarget)
      unfold follow
      refine .bind (fun p => ⟨p, p, rfl⟩) fun p => ?_
      split
      · exact .pure ()
      · refine .bind (fun p => ⟨(), _, rfl⟩) fun _ => ?_
        refine .bind_lift (map_eq_ok.2 ⟨_, hfind, rfl⟩) (hbody.bind fun s => ?_)
        exact fun p => ⟨(), _, rfl⟩

/-- What a schema refers to is read, when what it refers to itself can be followed. -/
theorem exists_validator (hv : Surveyed (.ofDomain domain) meaning T start)
    (hbody : ∀ place : Place, place.draft = .draft7 →
      (∀ t, T t → RefersInside (.ofDomain domain) t start →
        r.CanFollow (r.follow r.rounds) (.ofDomain domain) place.base t) →
      Succeeds (body r (r.follow r.rounds) place start)) :
    ∃ v, r.validator ⟨.draft7, start⟩ = .ok v := by
  obtain ⟨base, hbase, hfragment, hroot, -⟩ := hv.exists_address hweb hclosed
  have hT : ∀ t, T t → Name.IsTypeName t ∧ (Emitter.ofDomain domain).IsFetched t :=
    fun t ht => ⟨hclosed.name ht, hclosed.isFetched t ht⟩
  have hsite : Site.IsSurveyed (.ofDomain domain) meaning T ⟨base, ⟨.draft7, start⟩⟩ :=
    ⟨rfl, hfragment, fun hnone => .inl (hroot hnone), hv⟩
  obtain ⟨entered, hentered, hisBase, -⟩ := Survey.exists_enter hweb hT hsite
  have hnoFragment := (hisBase.fragment_scheme hweb fun t ht => (hT t ht).1).1
  obtain ⟨s, p, hread⟩ := hbody
    ⟨entered, .draft7, Draft.draft7.vocabulariesOf start⟩ rfl (fun t ht href => by
      have hknown := hfull.start t ht href
      exact canFollow hweb hnoFragment (hT t ht).1 (hT t ht).2 hknown
        (succeeds_follow hweb hclosed hsearch hfull ht hknown)) default
  unfold validator
  exact ⟨_, bind_eq_ok.2 ⟨base, hbase, bind_eq_ok.2 ⟨entered, hentered,
    bind_eq_ok.2 ⟨(s, p), hread, rfl⟩⟩⟩⟩

end

end Reader

/-! ## Validators -/

section

variable {domain : String} (hweb : IsWebDomain domain) {meaning : String → Option Demand}
  {T : String → Prop} {documents : List (String × Json)}
  (hclosed : (Emitter.ofDomain domain).IsClosed documents meaning T)
  (hsearch : ∀ t, T t → ∀ demand, meaning t = some demand → demand.isSearchable = true)
  (formats : List Format) (checksFormats : Bool)

include hweb hclosed hsearch

/-- The document of a type has a validator, when all documents that it leads to are at hand. -/
theorem exists_build {t : String} (ht : T t) {schema : Json}
    (hdocument : (Emitter.ofDomain domain).Describes meaning t schema)
    (hcheck : MetaSchema.check schema = .ok ()) :
    ∃ v, Validator.build documents formats checksFormats schema = .ok v := by
  have hv := hclosed.surveyed ht hdocument
  obtain ⟨registry, hcollect, hfull⟩ := exists_collect hweb hclosed hv
  obtain ⟨header, demand, hmeaning, hwellFormed, hnames, hschema⟩ := hdocument.demand
  obtain ⟨v, hv⟩ := Reader.exists_validator (r := ⟨registry, formats, checksFormats⟩) hweb hclosed
    hsearch hfull hv fun place hdraft hfollow => by
      subst hschema
      refine Reader.succeeds_document hdraft hwellFormed (hsearch t ht demand hmeaning) hnames ?_
      intro u hu
      exact hfollow u (hclosed.targets t ht demand hmeaning u hu)
        ((hdocument.refersInside_iff hmeaning).2 hu)
  exact ⟨v, bind_eq_ok.2 ⟨registry, hcollect, bind_eq_ok.2 ⟨(), hcheck, hv⟩⟩⟩

/-- And so do the lists of values of the type. -/
theorem exists_build_list {t : String} (ht : T t)
    (hcheck : MetaSchema.check (Engine.listSchema ((Emitter.ofDomain domain).uri t)) = .ok ()) :
    ∃ v, Validator.build documents formats checksFormats
      (Engine.listSchema ((Emitter.ofDomain domain).uri t)) = .ok v := by
  have hreference : Refers (.ofDomain domain) t
      (.object [("$ref", .string ((Emitter.ofDomain domain).uri t))]) := .here rfl
  have hitems : Draft.draft7.subschemas (Engine.listSchema ((Emitter.ofDomain domain).uri t))
      = [.object [("$ref", .string ((Emitter.ofDomain domain).uri t))]] := rfl
  -- The schema of lists refers to the type for the items, and names the version of the language.
  have hv : Surveyed (.ofDomain domain) meaning T
      (Engine.listSchema ((Emitter.ofDomain domain).uri t)) := by
    refine .mk (.inl rfl) (by rfl) ?_ ?_
    · intro k hk s hs
      rcases List.mem_pair.1 hk with rfl | rfl
      · cases hs
      · cases hs
        exact .inl (by decide)
    · rw [hitems, List.forall_mem_singleton]
      refine .of_plain (Plain.reference (hclosed.name ht)) fun u hu => ?_
      rw [refers_reference_iff.1 hu]
      exact ht
  obtain ⟨registry, hcollect, hfull⟩ := exists_collect hweb hclosed hv
  obtain ⟨v, hv⟩ := Reader.exists_validator (r := ⟨registry, formats, checksFormats⟩) hweb hclosed
    hsearch hfull hv fun place hdraft hfollow =>
      Reader.succeeds_list hdraft (hclosed.name ht) rfl rfl
        (hfollow t ht ⟨_, by rw [hitems]; exact List.mem_cons_self, hreference⟩)
  exact ⟨v, bind_eq_ok.2 ⟨registry, hcollect, bind_eq_ok.2 ⟨(), hcheck, hv⟩⟩⟩

end

end TypeCatalog
