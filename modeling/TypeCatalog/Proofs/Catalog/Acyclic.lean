import TypeCatalog.Proofs.Catalog.Records
import TypeCatalog.Proofs.Catalog.Roots
import TypeCatalog.Proofs.Catalog.Stages
import TypeCatalog.Proofs.TypeMap.Circles

/-!
# Batches of declared types

Records may refer to each other and to themselves. This makes no circle in the type map as long as
no definition is given as a schema: a walk stops at every document, be it that of a single value, of
an enum or of a record, and only the properties of records lead on. So a walk has two steps at most,
from a property to the type of the property (`Catalog.exists_reaches_name`).

The walk ends nowhere only if that type has no document. The types themselves stand for themselves,
but for the variants of records that are named like an enum: the builder knows the enums of all
definitions, and takes the document of such a variant for that of the enum.

The walk is `TypeMap.walk`, and `Enters` ties a document of the batch to the entry that
`Construction.addDocument` makes for its root. What a demand says of itself (`Demand.primitive?`)
tells which node the document gets, unless `Builder.refOf?` finds its name among the enums first.
-/

set_option autoImplicit false

namespace TypeCatalog

/-- What a record asks for is a record, and so is what its variants ask for. -/
theorem Definition.exists_record {d : Definition} (hkind : d.kind = .record)
    {entry : String × Demand} (hentry : entry ∈ d.demands) :
    ∃ system ps required, entry.2 = .record system ps required := by
  unfold kind at hkind
  unfold demands at hentry
  cases hbody : d.body with
  | record r =>
      rw [hbody] at hentry
      rcases List.mem_cons.1 hentry with rfl | hentry
      · exact ⟨_, _, _, rfl⟩
      · obtain ⟨v, -, rfl⟩ := List.mem_map.1 hentry
        exact ⟨_, _, _, rfl⟩
  | _ =>
      rw [hbody] at hkind
      cases hkind

/-- Only what an enum asks for is a list of values. -/
theorem Definition.kind_of_enum {d : Definition} {name : String} {values : List String}
    (hentry : (name, .enum values) ∈ d.demands) : d.kind = .enum ∧ name = d.typeName := by
  unfold demands at hentry
  unfold kind
  cases hbody : d.body with
  | enum b =>
      rw [hbody] at hentry
      exact ⟨rfl, (Prod.mk.inj (List.mem_singleton.1 hentry)).1⟩
  | _ =>
      rw [hbody] at hentry
      simp at hentry

namespace Builder

/-- The entry of a property has the name of its root with an underscore and the property behind. -/
theorem typeName_propertyEntry (root : Entry) (property : String) :
    (propertyEntry root property).typeName = root.typeName ++ "_" ++ property := by
  unfold Entry.typeName propertyEntry Name.qualify
  simp only [String.append_assoc]

/-- The node of a property has another name than the record. -/
theorem typeName_propertyEntry_ne (root : Entry) (property : String) :
    (propertyEntry root property).typeName ≠ root.typeName := by
  rw [typeName_propertyEntry]
  intro heq
  have hlength := congrArg String.length heq
  rw [String.length_append, String.length_append, show "_".length = 1 from rfl] at hlength
  omega

end Builder

namespace Catalog

/-- Whether an enum among the definitions of a batch has a name. -/
def IsEnumName (c : Catalog) (name : String) : Prop :=
  ∃ t ∈ c.definitions, t.kind = .enum ∧ t.typeName = name

/-- Whether a name is that of a property of a record or a variant, and the type of the property has
no document. -/
def IsDangling (settings : Settings) (formats : List Format) (store : Store) (name t : String) :
    Prop :=
  ∃ d ∈ resolved settings formats store, ∃ view ∈ d.recordViews, ∃ p ∈ view.properties,
    name = Name.qualify d.header.system view.name ++ "_" ++ p.name
    ∧ Emitter.propertyTarget d.header.system p = t
    ∧ ∀ document ∈ (ofStore settings formats store).documents, document.typeName ≠ t

/-- A document of a batch with its entry and with the demand of a definition that it writes down. -/
structure Asks (settings : Settings) (formats : List Format) (store : Store) (root : Entry)
    (document : Document) (demand : Demand) : Prop
    extends Enters settings formats store root document where
  schema : ∃ header, document.schema
    = (Emitter.ofDomain settings.domain).demandSchema document.typeName header demand
  definition : ∃ d ∈ resolved settings formats store, (document.typeName, demand) ∈ d.demands

variable {settings : Settings} {formats : List Format} {store : Store}

/-- The builder knows the enums of all definitions, emitted or not. -/
theorem lookup_enums_eq_none_iff {name : String} :
    (builderOf settings formats store).enums.lookup name = none
      ↔ ¬ (ofStore settings formats store).IsEnumName name := by
  unfold IsEnumName
  push Not
  exact Builder.lookup_enums_eq_none_iff _

/-- Where no definition is given as a schema, each document writes down a demand. -/
theorem Enters.exists_asks (hkinds : ∀ d ∈ (ofStore settings formats store).definitions,
      d.kind ≠ .object) {root : Entry} {document : Document}
    (h : Enters settings formats store root document)
    (hdocument : document ∈ (ofStore settings formats store).documents) :
    ∃ demand, Asks settings formats store root document demand := by
  obtain ⟨d, hd, hmem⟩ := mem_documents.1 hdocument
  obtain ⟨demand, header, hentry, hschema⟩ := (Emitter.ofDomain settings.domain
    ).exists_demand_of_mem_documentsOf (hkinds d (mem_resolvedOf.1 hd).1) hmem
  exact ⟨demand, h, ⟨header, hschema⟩, d, hd, hentry⟩

/-! ## Where walks stop -/

/-- A document that has the name of an enum stands for itself where enums are accepted, and for a
text otherwise. -/
theorem Enters.reaches_of_isEnumName {root : Entry} {document : Document}
    (h : Enters settings formats store root document)
    (hname : (ofStore settings formats store).IsEnumName document.typeName) :
    ((builderOf settings formats store).nodes root document.schema).typeNames = [document.typeName]
    ∧ (ofStore settings formats store).typeMap.Reaches true document.typeName document.typeName 0
      .enum
    ∧ (ofStore settings formats store).typeMap.Reaches false document.typeName "string" 0
      .primitive := by
  have hsome : (builderOf settings formats store).enums.lookup root.typeName ≠ none := by
    rw [h.typeName, ne_eq, lookup_enums_eq_none_iff, not_not]
    exact hname
  obtain ⟨declared, hdeclared⟩ := Option.ne_none_iff_exists'.1 hsome
  obtain ⟨n, href, htarget, hcount, hroot, hscalar, henum⟩ :=
    Builder.exists_refOf?_of_enum h.isRoot hdeclared
  have hfound := h.ref? href
  rw [h.depth] at hcount
  refine ⟨?_, ?_, ?_⟩
  · rw [Builder.nodes_of_refOf? href]
    exact congrArg (fun name => [name]) ((Builder.refOf?_typeName href).trans h.typeName)
  · rw [← hcount]
    exact .stop (.enum h.isQualified hfound hroot hscalar henum rfl)
  · have hgoes : ¬ (n.isRoot = true ∧ (n.isScalar = true ∨ n.isEnum = true ∧ false = true)) := by
      rintro ⟨-, hn | ⟨-, hfalse⟩⟩
      · exact Bool.false_ne_true (hscalar.symm.trans hn)
      · exact Bool.false_ne_true hfalse
    have hfollows : (ofStore settings formats store).typeMap.Follows false document.typeName 0
        "string" := by
      rw [← hcount, ← htarget]
      exact .ref h.isQualified hfound hgoes
    exact .step hfollows (.stop (.primitive (by decide)))

namespace Asks

variable {root : Entry} {document : Document} {demand : Demand}
  (h : Asks settings formats store root document demand)
  (hother : ¬ (ofStore settings formats store).IsEnumName document.typeName)

include h hother

/-- The name of a document that is not the name of an enum is not known to the builder. -/
theorem lookup_enums :
    (builderOf settings formats store).enums.lookup root.typeName = none := by
  rw [h.typeName]
  exact lookup_enums_eq_none_iff.2 hother

/-- A document that has not the name of an enum is that of a single value or of a record. -/
theorem primitive?_or_record : (∃ t, demand.primitive? = some t)
    ∨ ∃ system ps required, demand = .record system ps required := by
  obtain ⟨d, hd, hentry⟩ := h.definition
  cases demand with
  | enum values =>
      obtain ⟨hkind, hname⟩ := Definition.kind_of_enum hentry
      exact absurd ⟨d, (mem_resolvedOf.1 hd).1, hkind, hname.symm⟩ hother
  | record system ps required => exact .inr ⟨_, _, _, rfl⟩
  | _ => exact .inl ⟨_, rfl⟩

section

variable {t : String} (ht : demand.primitive? = some t)

include ht

/-- The document of a single value is entered as a reference to its primitive type. -/
theorem refOf?_of_primitive? :
    (builderOf settings formats store).refOf? root document.schema = some (root.ref t true) := by
  obtain ⟨header, hschema⟩ := h.schema
  exact hschema ▸ Builder.refOf?_of_primitive? (h.lookup_enums hother) ht

/-- It has this one node. -/
theorem typeNames_of_primitive? :
    ((builderOf settings formats store).nodes root document.schema).typeNames
      = [document.typeName] := by
  have href := h.refOf?_of_primitive? hother ht
  rw [Builder.nodes_of_refOf? href]
  exact congrArg (fun name => [name]) ((Builder.refOf?_typeName href).trans h.typeName)

/-- The document of a single value stands for itself. -/
theorem stops_scalar (acceptEnums : Bool) :
    (ofStore settings formats store).typeMap.Stops acceptEnums document.typeName 0 .scalar :=
  h.toEnters.stops_scalar (h.refOf?_of_primitive? hother ht) acceptEnums

end

section

variable {system : String} {ps : List Property} {required : List String}
  (hrecord : demand = .record system ps required)

include hrecord

/-- The document of a record is entered as the nodes of its properties and of the record. -/
theorem nodes_record : ∃ header, (builderOf settings formats store).nodes root document.schema
    = ⟨[Builder.recordNode (.ofDomain settings.domain) root document.typeName header system ps
        required], ps.map (Builder.propertyRef root system)⟩ := by
  obtain ⟨header, hschema⟩ := h.schema
  obtain ⟨d, hd, hentry⟩ := h.definition
  rw [hrecord] at hentry hschema
  have hnames : (ps.map (·.name)).Nodup :=
    (wellFormed_of_mem (mem_resolvedOf.1 hd).1).demand hentry
  have htargets : ∀ p ∈ ps, Name.IsTypeName (Emitter.propertyTarget system p) := fun p hp =>
    MeaningHypotheses.isTypeName_of_mem_targets hd hentry (List.mem_map.2 ⟨p, hp, rfl⟩)
  refine ⟨header, ?_⟩
  rw [hschema]
  exact Builder.nodes_record hnames htargets (h.lookup_enums hother)

/-- The document of a record or a variant stands for itself. -/
theorem stops_object (acceptEnums : Bool) :
    (ofStore settings formats store).typeMap.Stops acceptEnums document.typeName 0 .object := by
  obtain ⟨header, hnodes⟩ := h.nodes_record hother hrecord
  obtain ⟨href, hobject⟩ := h.agree document.typeName (.inl h.typeName.symm)
  rw [hnodes] at href hobject
  have hnone : (⟨[Builder.recordNode (.ofDomain settings.domain) root document.typeName
      header system
      ps required], ps.map (Builder.propertyRef root system)⟩ : TypeMap).ref? document.typeName
        = none := by
    refine List.find?_eq_none.2 fun n hn => ?_
    obtain ⟨p, -, rfl⟩ := List.mem_map.1 hn
    simp only [decide_eq_true_eq]
    rw [← h.typeName]
    exact Builder.typeName_propertyEntry_ne root p.name
  rw [← h.depth]
  exact .object h.isQualified (href.trans hnone)
    (hobject.trans (List.find?_cons_of_pos (decide_eq_true h.typeName)))

/-- The names under a record are its own and those of its properties, which lead on to the types of
the properties. -/
theorem follows_of_mem {name : String}
    (hname : name ∈ ((builderOf settings formats store).nodes root document.schema).typeNames) :
    name = document.typeName ∨ ∃ p ∈ ps, name = document.typeName ++ "_" ++ p.name
      ∧ ∀ acceptEnums, (ofStore settings formats store).typeMap.Follows acceptEnums name
        (if p.array then 1 else 0) (Emitter.propertyTarget system p) := by
  obtain ⟨header, hnodes⟩ := h.nodes_record hother hrecord
  obtain ⟨d, hd, hentry⟩ := h.definition
  rw [hrecord] at hentry
  have hnames : (ps.map (·.name)).Nodup :=
    (wellFormed_of_mem (mem_resolvedOf.1 hd).1).demand hentry
  rw [hnodes] at hname
  rcases List.mem_append.1 hname with hname | hname
  · obtain ⟨n, hn, rfl⟩ := List.mem_map.1 hname
    obtain ⟨p, hp, rfl⟩ := List.mem_map.1 hn
    have hown : (Builder.propertyRef root system p).typeName
        = (Builder.propertyEntry root p.name).typeName := rfl
    have href := (h.agree (Builder.propertyEntry root p.name).typeName (.inr ⟨p.name, rfl⟩)).1
    rw [hnodes, Builder.ref?_record hnames hp] at href
    refine .inr ⟨p, hp, ?_, fun acceptEnums => follows_propertyEntry href acceptEnums⟩
    rw [hown, Builder.typeName_propertyEntry, h.typeName]
  · rw [List.mem_singleton.1 hname]
    exact .inl h.typeName

end

/-- The name of a document stands for something. -/
theorem exists_reaches_document (acceptEnums : Bool) : ∃ stop total r,
    (ofStore settings formats store).typeMap.Reaches acceptEnums document.typeName stop total r
      ∧ r ≠ .unknown := by
  rcases h.primitive?_or_record hother with ⟨t, ht⟩ | ⟨system, ps, required, hrecord⟩
  · exact ⟨_, _, _, .stop (h.stops_scalar hother ht acceptEnums), nofun⟩
  · exact ⟨_, _, _, .stop (h.stops_object hother hrecord acceptEnums), nofun⟩

end Asks

section

variable (hkinds : ∀ d ∈ (ofStore settings formats store).definitions, d.kind ≠ .object)
  (hnodup : ((ofStore settings formats store).documents.map (·.typeName)).Nodup)

include hkinds hnodup

/-- Where no definition is given as a schema, a type stands for something if it has a document. -/
theorem exists_reaches_type {t : String} (ht : Name.IsTypeName t) (acceptEnums : Bool) :
    ∃ stop total r, (ofStore settings formats store).typeMap.Reaches acceptEnums t stop total r
      ∧ (r = .unknown → stop = t
        ∧ ∀ document ∈ (ofStore settings formats store).documents, document.typeName ≠ t) := by
  by_cases hdocuments : ∃ document ∈ (ofStore settings formats store).documents,
      document.typeName = t
  · obtain ⟨document, hdocument, rfl⟩ := hdocuments
    obtain ⟨root, henters⟩ := exists_enters hnodup hdocument
    by_cases henum : (ofStore settings formats store).IsEnumName document.typeName
    · obtain ⟨-, htrue, hfalse⟩ := henters.reaches_of_isEnumName henum
      cases acceptEnums with
      | true => exact ⟨_, _, _, htrue, nofun⟩
      | false => exact ⟨_, _, _, hfalse, nofun⟩
    · obtain ⟨demand, hasks⟩ := henters.exists_asks hkinds hdocument
      obtain ⟨stop, total, r, hreaches, hr⟩ := hasks.exists_reaches_document henum acceptEnums
      exact ⟨stop, total, r, hreaches, fun heq => absurd heq hr⟩
  · -- The names under documents are names of documents or of properties, and a type has neither.
    push Not at hdocuments
    obtain ⟨href, hobject⟩ := find?_eq_none_of_isTypeName hnodup ht hdocuments
    obtain ⟨system, name, -, -, rfl⟩ := ht
    exact ⟨_, _, _, .stop (.unknown (TypeMap.isQualified_qualify _ _) href hobject),
      fun _ => ⟨rfl, hdocuments⟩⟩

/-- Every name of the type map stands for something, or is that of a property whose type has no
document. -/
theorem exists_reaches_name {name : String}
    (hname : name ∈ (ofStore settings formats store).typeMap.typeNames) (acceptEnums : Bool) :
    ∃ stop total r, (ofStore settings formats store).typeMap.Reaches acceptEnums name stop total r
      ∧ (r = .unknown → IsDangling settings formats store name stop) := by
  obtain ⟨document, hdocument, root, henters, hname⟩ := exists_enters_of_mem_typeNames hnodup hname
  by_cases henum : (ofStore settings formats store).IsEnumName document.typeName
  · obtain ⟨hown, htrue, hfalse⟩ := henters.reaches_of_isEnumName henum
    rw [hown] at hname
    rw [List.mem_singleton.1 hname]
    cases acceptEnums with
    | true => exact ⟨_, _, _, htrue, nofun⟩
    | false => exact ⟨_, _, _, hfalse, nofun⟩
  -- A document with another name than an enum is entered by its demand.
  · obtain ⟨demand, hasks⟩ := henters.exists_asks hkinds hdocument
    rcases hasks.primitive?_or_record henum with ⟨t, ht⟩ | ⟨system, ps, required, hrecord⟩
    · rw [hasks.typeNames_of_primitive? henum ht] at hname
      rw [List.mem_singleton.1 hname]
      exact ⟨_, _, _, .stop (hasks.stops_scalar henum ht acceptEnums), nofun⟩
    · rcases hasks.follows_of_mem henum hrecord hname with rfl | ⟨p, hp, rfl, hfollows⟩
      · exact ⟨_, _, _, .stop (hasks.stops_object henum hrecord acceptEnums), nofun⟩
      · -- One step from the property to its type, and no more than one from there.
        obtain ⟨d, hd, hentry⟩ := hasks.definition
        rw [hrecord] at hentry
        have ht : Name.IsTypeName (Emitter.propertyTarget system p) :=
          MeaningHypotheses.isTypeName_of_mem_targets hd hentry (List.mem_map.2 ⟨p, hp, rfl⟩)
        obtain ⟨stop, total, r, hreaches, hunknown⟩ :=
          exists_reaches_type hkinds hnodup ht acceptEnums
        refine ⟨stop, _, r, .step (hfollows acceptEnums) hreaches, fun hr => ?_⟩
        obtain ⟨rfl, hdocuments⟩ := hunknown hr
        obtain ⟨rfl, view, hview, hqualified, rfl, -⟩ := Definition.mem_demands_record_iff.1 hentry
        exact ⟨d, hd, view, hview, p, hp, by rw [hqualified], rfl, hdocuments⟩

/-- No walk goes round in a circle, however records refer to each other. -/
theorem kind_ne_cyclicReference :
    ∀ x ∈ (ofStore settings formats store).report.errors, x.kind ≠ .cyclicReference := by
  have hcycles : (ofStore settings formats store).typeMap.cycles = [] := by
    refine TypeMap.cycles_eq_nil_iff.2 fun name hname => ?_
    obtain ⟨stop, total, r, hreaches, -⟩ := exists_reaches_name hkinds hnodup hname true
    exact ⟨_, TypeMap.resolve_of_reaches hreaches 0⟩
  rw [errors_eq_append_cycles, hcycles, List.append_nil]
  exact fun x hx => of_decide_eq_true (List.mem_filter.1 hx).2

/-- A record or a variant stands for itself exactly if no enum has its name. -/
theorem resolve_record_iff {d : Definition} (hd : d ∈ resolved settings formats store)
    (hkind : d.kind = .record) {name : String} (hname : name ∈ d.typeName :: d.variantTypeNames)
    (depth : Nat) :
    (∀ acceptEnums, (ofStore settings formats store).typeMap.resolve acceptEnums name depth
      = .ok ⟨name, depth, .object⟩) ↔ ¬ (ofStore settings formats store).IsEnumName name := by
  rw [← Emitter.typeNames_documentsOf (e := .ofDomain settings.domain)] at hname
  obtain ⟨document, hmem, rfl⟩ := List.mem_map.1 hname
  have hdocument := mem_documents.2 ⟨d, hd, hmem⟩
  obtain ⟨root, henters⟩ := exists_enters hnodup hdocument
  constructor
  · intro hresolve henum
    obtain ⟨-, htrue, -⟩ := henters.reaches_of_isEnumName henum
    have heq := (hresolve true).symm.trans (TypeMap.resolve_of_reaches htrue depth)
    simp at heq
  · intro henum acceptEnums
    obtain ⟨demand, header, hentry, hschema⟩ := (Emitter.ofDomain settings.domain
      ).exists_demand_of_mem_documentsOf (hkinds d (mem_resolvedOf.1 hd).1) hmem
    have hasks : Asks settings formats store root document demand :=
      ⟨henters, ⟨header, hschema⟩, d, hd, hentry⟩
    obtain ⟨system, ps, required, hrecord⟩ := Definition.exists_record hkind hentry
    exact TypeMap.resolve_of_reaches (.stop (hasks.stops_object henum hrecord acceptEnums)) depth

omit hkinds in
/-- An enum stands for itself where enums are accepted, and for a text otherwise. -/
theorem resolve_enum {d : Definition} (hd : d ∈ resolved settings formats store)
    (hkind : d.kind = .enum) (depth : Nat) :
    (ofStore settings formats store).typeMap.resolve true d.typeName depth
      = .ok ⟨d.typeName, depth, .enum⟩
    ∧ (ofStore settings formats store).typeMap.resolve false d.typeName depth
      = .ok ⟨"string", depth, .primitive⟩ := by
  have hdocument : (Emitter.ofDomain settings.domain).typeDocument d
      ∈ (ofStore settings formats store).documents :=
    mem_documents.2 ⟨d, hd, List.mem_cons_self⟩
  obtain ⟨root, henters⟩ := exists_enters hnodup hdocument
  obtain ⟨-, htrue, hfalse⟩ :=
    henters.reaches_of_isEnumName ⟨d, (mem_resolvedOf.1 hd).1, hkind, rfl⟩
  exact ⟨TypeMap.resolve_of_reaches htrue depth, TypeMap.resolve_of_reaches hfalse depth⟩

end

/-- What a type map says where no definition is given as a schema and no two documents have the same
name. There are no circles. Single values and enums stand for themselves, an enum for a text where
enums are not accepted. A record stands for itself, and so does a variant exactly if no definition
of an enum has its name. And a name of the map stands for nothing only if it is that of a property
whose type has no document. -/
theorem isClosed_typeMap (settings : Settings) (formats : List Format) (store : Store)
    (hkinds : ∀ d ∈ (ofStore settings formats store).definitions, d.kind ≠ .object)
    (hnodup : ((ofStore settings formats store).documents.map (·.typeName)).Nodup) :
    (∀ x ∈ (ofStore settings formats store).report.errors, x.kind ≠ .cyclicReference)
    ∧ (∀ d ∈ resolved settings formats store, d.kind ∈ [.bool, .int, .float, .string] →
      ∀ acceptEnums depth, (ofStore settings formats store).typeMap.resolve acceptEnums d.typeName
        depth = .ok ⟨d.typeName, depth, .scalar⟩)
    ∧ (∀ d ∈ resolved settings formats store, d.kind = .enum → ∀ depth,
      (ofStore settings formats store).typeMap.resolve true d.typeName depth
        = .ok ⟨d.typeName, depth, .enum⟩
      ∧ (ofStore settings formats store).typeMap.resolve false d.typeName depth
        = .ok ⟨"string", depth, .primitive⟩)
    ∧ (∀ d ∈ resolved settings formats store, d.kind = .record → ∀ depth,
      (∀ acceptEnums, (ofStore settings formats store).typeMap.resolve acceptEnums d.typeName depth
        = .ok ⟨d.typeName, depth, .object⟩)
      ∧ ∀ name ∈ d.variantTypeNames,
        (∀ acceptEnums, (ofStore settings formats store).typeMap.resolve acceptEnums name depth
          = .ok ⟨name, depth, .object⟩) ↔ ¬ (ofStore settings formats store).IsEnumName name)
    ∧ ∀ name ∈ (ofStore settings formats store).typeMap.typeNames, ∀ acceptEnums depth,
      ∃ a, (ofStore settings formats store).typeMap.resolve acceptEnums name depth = .ok a
        ∧ (a.resolution = .unknown → IsDangling settings formats store name a.typeName) := by
  refine ⟨?_, ?_, ?_, ?_, ?_⟩
  · exact kind_ne_cyclicReference hkinds hnodup
  · exact fun d hd hkind => resolve_of_kind hnodup hd hkind
  · exact fun d hd hkind => resolve_enum hnodup hd hkind
  · intro d hd hkind depth
    refine ⟨?_, fun name hname => resolve_record_iff hkinds hnodup hd hkind (.tail _ hname) depth⟩
    refine (resolve_record_iff hkinds hnodup hd hkind (.head _) depth).2 ?_
    rintro ⟨t, ht, htkind, hname⟩
    exact typeName_ne_of_enum (mem_resolvedOf.1 hd).1 (by rw [hkind]; decide) t ht htkind hname
  · intro name hname acceptEnums depth
    obtain ⟨stop, total, r, hreaches, hr⟩ := exists_reaches_name hkinds hnodup hname acceptEnums
    exact ⟨_, TypeMap.resolve_of_reaches hreaches depth, hr⟩

/-- A store with two records that refer to each other, one of them to itself as well. It has a
variant that is named like an enum whose data type is missing. -/
def circleStore : Store := ⟨[
  ⟨none, .object [("kind", .string "enum"), ("system", .string "test"), ("name", .string "role"),
    ("items", .array [.object [("value", .string "a"), ("text", .string "A")]])]⟩,
  ⟨none, .object [("kind", .string "enum"), ("system", .string "test"),
    ("name", .string "teamShort"),
    ("items", .array [.object [("value", .string "a"), ("text", .string "A")]]),
    ("dataType", .string "missing")]⟩,
  ⟨none, .object [("kind", .string "record"), ("system", .string "test"), ("name", .string "user"),
    ("properties", .array
      [.object [("name", .string "team"), ("propertyType", .string "team")],
        .object [("name", .string "role"), ("propertyType", .string "role")]]),
    ("validTestCases", .array [])]⟩,
  ⟨none, .object [("kind", .string "record"), ("system", .string "test"), ("name", .string "team"),
    ("properties", .array
      [.object [("name", .string "lead"), ("propertyType", .string "user")],
        .object [("name", .string "parts"), ("propertyType", .string "team"),
          ("isArray", .bool true)]]),
    ("variants", .array [.object [("name", .string "short"),
      ("includeProperties", .array [.string "lead"])]]),
    ("validTestCases", .array [])]⟩]⟩

/-- The records make no circle and stand for themselves; the variant does not. -/
theorem isClosed_typeMap_circleStore :
    (∀ d ∈ (ofStore .standard [] circleStore).definitions, d.kind ≠ .object)
    ∧ ((ofStore .standard [] circleStore).documents.map (·.typeName)).Nodup
    ∧ (∀ x ∈ (ofStore .standard [] circleStore).report.errors, x.kind ≠ .cyclicReference)
    ∧ (∀ name ∈ ["test/user", "test/team"], ∀ acceptEnums,
      (ofStore .standard [] circleStore).typeMap.resolve acceptEnums name 0
        = .ok ⟨name, 0, .object⟩)
    ∧ ¬ ∀ acceptEnums, (ofStore .standard [] circleStore).typeMap.resolve acceptEnums
      "test/teamShort" 0 = .ok ⟨"test/teamShort", 0, .object⟩ := by
  have hkinds : ∀ d ∈ (ofStore .standard [] circleStore).definitions, d.kind ≠ .object := by
    rw [definitions_ofStore]
    decide +kernel
  have hnodup : ((ofStore .standard [] circleStore).documents.map (·.typeName)).Nodup := by
    rw [(documents_perm_resolved.map (·.typeName)).nodup_iff]
    decide +kernel
  obtain ⟨hacyclic, -, -, hrecords, -⟩ := isClosed_typeMap .standard [] circleStore hkinds hnodup
  refine ⟨hkinds, hnodup, hacyclic, fun name hname => ?_, ?_⟩
  · have hrecord : ∀ name ∈ ["test/user", "test/team"], ∃ d ∈ resolved .standard [] circleStore,
        d.kind = .record ∧ d.typeName = name := by
      decide +kernel
    obtain ⟨d, hd, hkind, rfl⟩ := hrecord name hname
    exact (hrecords d hd hkind 0).1
  · have hteam : ∃ d ∈ resolved .standard [] circleStore,
        d.kind = .record ∧ "test/teamShort" ∈ d.variantTypeNames := by
      decide +kernel
    obtain ⟨d, hd, hkind, hname⟩ := hteam
    rw [(hrecords d hd hkind 0).2 _ hname, not_not]
    show ∃ t ∈ (ofStore .standard [] circleStore).definitions, _
    rw [definitions_ofStore]
    decide +kernel

end Catalog

end TypeCatalog
