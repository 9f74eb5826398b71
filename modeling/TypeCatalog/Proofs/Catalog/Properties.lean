import TypeCatalog.Proofs.Catalog.Meaning
import TypeCatalog.Proofs.TypeMap.RecordNodes
import TypeCatalog.Proofs.TypeMap.Walk

/-!
# Properties of records in the type map

A generator that asks the type map of a batch for a record gets an object whose properties name
nodes, and asks for what these names stand for. `resolve_property` says that the answer is that for
the declared type of the property, with one list around it if the property is a list.

The object is there unless a definition of an enum has the name that it is asked for by. A
definition has a name of its own, so this can only be the name of a variant, and of an enum that has
no document: the builder knows the enums of all definitions, also of those that were left out.

The node of a property is a reference that `Builder.propertyRef` makes, and `TypeMap.resolve`
answers with where the walk from it ends. Whether there is an object is decided in `Builder.refOf?`,
whose first question is whether the name of the root is that of an enum (`Construction.withEnums`).
-/

set_option autoImplicit false

namespace TypeCatalog

/-- The enums that a builder knows are those among the definitions. -/
theorem Builder.lookup_enums_eq_none_iff (domain : String) {name : String} {ds : List Definition} :
    (withEnums domain ds).enums.lookup name = none
      ↔ ∀ t ∈ ds, t.kind = .enum → t.typeName ≠ name := by
  unfold withEnums
  rw [Table.lookup_eq_none_iff_forall, List.map_reverse, List.mem_reverse]
  constructor
  · intro h t ht hkind hname
    refine h (List.mem_map.2 ?_)
    unfold Definition.kind at hkind
    cases hbody : t.body with
    | enum body =>
        exact ⟨_, List.mem_filterMap.2 ⟨t, ht, by rw [hbody]⟩, hname⟩
    | _ =>
        rw [hbody] at hkind
        cases hkind
  · intro h hmem
    obtain ⟨entry, hentry, rfl⟩ := List.mem_map.1 hmem
    obtain ⟨t, ht, hsome⟩ := List.mem_filterMap.1 hentry
    cases hbody : t.body with
    | enum body =>
        rw [hbody] at hsome
        cases hsome
        exact h t ht (by rw [Definition.kind, hbody]; rfl) rfl
    | _ =>
        rw [hbody] at hsome
        cases hsome

/-- Whether an entry is that of a document whose name has two identifiers as its parts. -/
structure Entry.IsRootOf (root : Entry) (typeName : String) : Prop where
  typeName : root.typeName = typeName
  isRoot : root.isRoot = true
  depth : root.depth = 0
  system : Name.isIdentifier root.system = true
  name : Name.isIdentifier root.name = true

/-- What one document of a record is about: the record itself, or what a variant selects of it. -/
structure RecordView where
  /-- The name of the type inside the system of the definition. -/
  name : String
  summary : Option String
  properties : List Property
  required : List String
deriving DecidableEq, Inhabited

/-- The record of a definition and its variants. -/
def Definition.recordViews (d : Definition) : List RecordView :=
  match d.body with
  | .record r =>
    ⟨d.header.name, d.header.summary, r.properties, r.requiredNames⟩
      :: r.variantList.map fun v => ⟨d.variantName v, v.summary, r.selected v, r.requiredBy v⟩
  | _ => []

/-- What the views of a definition ask for are its demands. -/
theorem Definition.mem_demands_record_iff {d : Definition} {name system : String}
    {ps : List Property} {required : List String} :
    (name, .record system ps required) ∈ d.demands ↔ system = d.header.system
      ∧ ∃ view ∈ d.recordViews, Name.qualify d.header.system view.name = name
        ∧ view.properties = ps ∧ view.required = required := by
  unfold demands recordViews
  cases d.body with
  | record r =>
      simp only [List.mem_cons, List.mem_map, Prod.mk.injEq, Demand.record.injEq]
      constructor
      · rintro (⟨rfl, rfl, rfl, rfl⟩ | ⟨v, hv, rfl, rfl, rfl, rfl⟩)
        · exact ⟨rfl, _, .inl rfl, rfl, rfl, rfl⟩
        · exact ⟨rfl, _, .inr ⟨v, hv, rfl⟩, rfl, rfl, rfl⟩
      · rintro ⟨rfl, view, rfl | ⟨v, hv, rfl⟩, rfl, rfl, rfl⟩
        · exact .inl ⟨rfl, rfl, rfl, rfl⟩
        · exact .inr ⟨v, hv, rfl, rfl, rfl, rfl⟩
  | _ => simp

/-- What an enum asks for is no record. -/
theorem Definition.kind_ne_enum {d : Definition} {name system : String} {ps : List Property}
    {required : List String} (hentry : (name, .record system ps required) ∈ d.demands) :
    d.kind ≠ .enum := by
  intro hkind
  unfold kind at hkind
  unfold demands at hentry
  cases hbody : d.body with
  | enum body =>
      rw [hbody] at hentry
      simp at hentry
  | _ =>
      rw [hbody] at hkind
      cases hkind

/-- A record or a variant has a document, which writes down what it asks for. -/
theorem Builder.exists_entry_of_view {e : Emitter} {d : Definition} (hd : d.WellFormed)
    {view : RecordView} (hview : view ∈ d.recordViews) :
    ∃ entry ∈ entriesOf e d, ∃ root header,
      Entry.IsRootOf root (Name.qualify d.header.system view.name)
      ∧ (root.system = d.header.system ∧ root.name = view.name)
      ∧ header.summary = view.summary
      ∧ entry.2.typeName = Name.qualify d.header.system view.name
      ∧ ∀ b : Builder, b.documentNodes entry.1 entry.2
        = b.nodes root (e.demandSchema (Name.qualify d.header.system view.name) header
            (.record d.header.system view.properties view.required)) := by
  -- The first document of a record is its own, and the others are those of its variants.
  unfold Definition.recordViews at hview
  cases hbody : d.body with
  | record r =>
      rw [hbody] at hview
      rcases List.mem_cons.1 hview with rfl | hview
      · refine ⟨_, List.mem_cons_self,
          ⟨d.header.system, d.header.name, true, d.examples.map (·.value), 0⟩, d.header,
          ⟨rfl, rfl, rfl, hd.system, hd.name⟩, ⟨rfl, rfl⟩, rfl, rfl, fun b => ?_⟩
        rw [documentNodes_eq hd.name rfl]
        unfold Emitter.typeDocument
        rw [hbody]
        rfl
      · obtain ⟨v, hv, rfl⟩ := List.mem_map.1 hview
        have hvariant : v ∈ d.variants := by
          unfold Definition.variants
          rw [hbody]
          exact hv
        have hname := hd.isIdentifier_variantName hvariant
        have hmem : ([], e.variantDocument d r v) ∈ entriesOf e d :=
          .tail _ (List.mem_map.2 ⟨_, (e.mem_variantDocuments d).2 ⟨r, v, hbody, hv, rfl⟩, rfl⟩)
        exact ⟨_, hmem, ⟨d.header.system, d.variantName v, true, [], 0⟩,
          Emitter.variantHeader d.header v, ⟨rfl, rfl, rfl, hd.system, hname⟩, ⟨rfl, rfl⟩, rfl, rfl,
          fun b => documentNodes_eq hname rfl⟩
  | _ =>
      rw [hbody] at hview
      cases hview

namespace Catalog

/-- The builder of the type map of a batch. -/
def builderOf (settings : Settings) (formats : List Format) (store : Store) : Builder :=
  .withEnums settings.domain (ofStore settings formats store).definitions

variable {settings : Settings} {formats : List Format} {store : Store}

/-- What the type map of a batch has under the name of a record or of a variant are the nodes of its
document. -/
theorem exists_agree_view
    (hnodup : ((ofStore settings formats store).documents.map (·.typeName)).Nodup)
    {d : Definition} (hd : d ∈ resolved settings formats store) {view : RecordView}
    (hview : view ∈ d.recordViews) :
    ∃ root header, Entry.IsRootOf root (Name.qualify d.header.system view.name)
      ∧ (root.system = d.header.system ∧ root.name = view.name)
      ∧ header.summary = view.summary
      ∧ ∀ node, Builder.IsUnder root node →
        (ofStore settings formats store).typeMap.Agree
          ((builderOf settings formats store).nodes root
            ((Emitter.ofDomain (builderOf settings formats store).domain).demandSchema
              (Name.qualify d.header.system view.name) header
              (.record d.header.system view.properties view.required))) node := by
  have hwellFormed := wellFormed_of_mem (mem_resolvedOf.1 hd).1
  obtain ⟨entry, hmem, root, header, hroot, hparts, hsummary, hname, hnodes⟩ :=
    Builder.exists_entry_of_view (e := .ofDomain settings.domain) hwellFormed hview
  refine ⟨root, header, hroot, hparts, hsummary, fun node hnode => ?_⟩
  show TypeMap.Agree _ ((builderOf settings formats store).nodes root
    ((Emitter.ofDomain settings.domain).demandSchema _ header _)) node
  rw [← hnodes, typeMap_ofStore]
  exact Builder.agree_concat_of_isUnder exists_of_mem_entries (typeNames_entries_nodup hnodup)
    (List.mem_flatMap.2 ⟨d, hd, hmem⟩) (hname.trans hroot.typeName.symm) hroot.system hroot.name
    hnode

/-- No enum has the name of another definition, since the names of definitions differ. -/
theorem typeName_ne_of_enum {d : Definition}
    (hd : d ∈ (ofStore settings formats store).definitions) (hkind : d.kind ≠ .enum) :
    ∀ t ∈ (ofStore settings formats store).definitions, t.kind = .enum →
      t.typeName ≠ d.typeName := by
  intro t ht htkind hname
  have hsame : t = d := List.inj_on_of_nodup_map typeNames_nodup ht hd hname
  rw [hsame] at htkind
  exact hkind htkind

section

variable (hnodup : ((ofStore settings formats store).documents.map (·.typeName)).Nodup)
  {d : Definition} (hd : d ∈ resolved settings formats store) {name system : String}
  {ps : List Property} {required : List String}
  (hentry : (name, .record system ps required) ∈ d.demands)

include hnodup hd hentry

/-- The same for what a definition demands. -/
theorem exists_agree_record :
    ∃ root header, Entry.IsRootOf root name ∧ ∀ node, Builder.IsUnder root node →
      (ofStore settings formats store).typeMap.Agree
        ((builderOf settings formats store).nodes root
          ((Emitter.ofDomain (builderOf settings formats store).domain).demandSchema name header
            (.record system ps required))) node := by
  obtain ⟨rfl, view, hview, rfl, rfl, rfl⟩ := Definition.mem_demands_record_iff.1 hentry
  obtain ⟨root, header, hroot, -, -, hagree⟩ := exists_agree_view hnodup hd hview
  exact ⟨root, header, hroot, hagree⟩

/-- The nodes that the type map has for a record or a variant whose name is not that of an enum. -/
theorem exists_object_record
    (henum : (builderOf settings formats store).enums.lookup name = none) :
    ∃ e root, ∃ node : ObjectNode,
      (ofStore settings formats store).typeMap.object? name = some node
      ∧ node.properties = ps.map (Builder.objectProperty e root system required)
      ∧ ∀ p ∈ ps, (ofStore settings formats store).typeMap.ref?
          (Builder.propertyEntry root p.name).typeName
            = some (Builder.propertyRef root system p) := by
  have hnames : (ps.map (·.name)).Nodup :=
    (wellFormed_of_mem (mem_resolvedOf.1 hd).1).demand hentry
  have htargets : ∀ p ∈ ps, Name.IsTypeName (Emitter.propertyTarget system p) := fun p hp =>
    MeaningHypotheses.isTypeName_of_mem_targets hd hentry (List.mem_map.2 ⟨p, hp, rfl⟩)
  obtain ⟨root, header, hroot, hagree⟩ := exists_agree_record hnodup hd hentry
  rw [← hroot.typeName] at henum
  simp only [Builder.nodes_record hnames htargets henum] at hagree
  have hobject := (hagree name (.inl hroot.typeName.symm)).2
  refine ⟨.ofDomain (builderOf settings formats store).domain, root,
    Builder.recordNode _ root name header system ps required, hobject.trans ?_, rfl,
    fun p hp => ?_⟩
  · exact List.find?_cons_of_pos (decide_eq_true hroot.typeName)
  · have href := (hagree (Builder.propertyEntry root p.name).typeName (.inr ⟨p.name, rfl⟩)).1
    exact href.trans (Builder.ref?_record hnames hp)

/-- The type map has no object for a variant whose name is that of an enum. -/
theorem object?_eq_none_of_enum {declared : EnumRoot}
    (henum : (builderOf settings formats store).enums.lookup name = some declared) :
    (ofStore settings formats store).typeMap.object? name = none := by
  obtain ⟨root, header, hroot, hagree⟩ := exists_agree_record hnodup hd hentry
  rw [(hagree name (.inl hroot.typeName.symm)).2]
  rw [← hroot.typeName] at henum
  unfold TypeMap.object?
  rw [Builder.objects_nodes_of_enum hroot.isRoot henum]
  rfl

/-- The type map has an object for a record or a variant unless an enum has the name. -/
theorem isSome_object?_iff :
    ((ofStore settings formats store).typeMap.object? name).isSome = true
      ↔ ∀ t ∈ (ofStore settings formats store).definitions,
        t.kind = .enum → t.typeName ≠ name := by
  rw [← Builder.lookup_enums_eq_none_iff settings.domain]
  cases henum : (builderOf settings formats store).enums.lookup name with
  | none =>
      obtain ⟨_, _, node, hnode, -⟩ := exists_object_record hnodup hd hentry henum
      rw [hnode]
      exact iff_of_true rfl henum
  | some declared =>
      rw [object?_eq_none_of_enum hnodup hd hentry henum]
      refine iff_of_false Bool.false_ne_true fun hnone => ?_
      cases henum.symm.trans hnone

omit hnodup in
/-- No enum has the name of a record. -/
theorem ne_of_enum (hname : name = d.typeName) :
    ∀ t ∈ (ofStore settings formats store).definitions, t.kind = .enum → t.typeName ≠ name := by
  rw [hname]
  exact typeName_ne_of_enum (mem_resolvedOf.1 hd).1 (Definition.kind_ne_enum hentry)

end

/-- The node of a property leads on to the declared type. -/
theorem follows_propertyEntry {m : TypeMap} {root : Entry} {system : String} {p : Property}
    (h : m.ref? (Builder.propertyEntry root p.name).typeName
      = some (Builder.propertyRef root system p)) (acceptEnums : Bool) :
    m.Follows acceptEnums (Builder.propertyEntry root p.name).typeName (if p.array then 1 else 0)
      (Emitter.propertyTarget system p) := by
  have hqualified : TypeMap.isQualified (Builder.propertyEntry root p.name).typeName = true := by
    unfold TypeMap.isQualified Entry.typeName
    rw [Name.toList_qualify]
    simp
  exact .ref hqualified h fun hroot => Bool.false_ne_true hroot.1

/-- What the type map of a batch says of a record or of a variant, where no two documents have the
same name. There is an object of its name unless a definition of an enum has that name, so there is
one for a record itself in any case. The object has every selected property; and whatever the
declared type of the property resolves to, the node of the property resolves to, with one list
around it if the property is a list. If the one is an error, so is the other. -/
theorem resolve_property (settings : Settings) (formats : List Format) (store : Store)
    (hnodup : ((ofStore settings formats store).documents.map (·.typeName)).Nodup)
    {d : Definition} (hd : d ∈ resolved settings formats store) {name system : String}
    {ps : List Property} {required : List String}
    (hentry : (name, .record system ps required) ∈ d.demands) :
    (((ofStore settings formats store).typeMap.object? name).isSome = true
      ↔ ∀ t ∈ (ofStore settings formats store).definitions, t.kind = .enum → t.typeName ≠ name)
    ∧ (name = d.typeName → ((ofStore settings formats store).typeMap.object? name).isSome = true)
    ∧ ∀ node, (ofStore settings formats store).typeMap.object? name = some node → ∀ p ∈ ps,
      ∃ q, node.property? p.name = some q ∧ ∀ acceptEnums depth,
        match (ofStore settings formats store).typeMap.resolve acceptEnums
          (Emitter.propertyTarget system p) depth with
        | .ok a => (ofStore settings formats store).typeMap.resolve acceptEnums q.target depth
            = .ok { a with arrayDepth := a.arrayDepth + if p.array then 1 else 0 }
        | .error _ => ∃ c,
            (ofStore settings formats store).typeMap.resolve acceptEnums q.target depth
              = .error c := by
  have hiff := isSome_object?_iff hnodup hd hentry
  refine ⟨hiff, ?_, ?_⟩
  · intro hname
    exact hiff.2 (ne_of_enum hd hentry hname)
  · intro node hnode p hp
    have henum : (builderOf settings formats store).enums.lookup name = none :=
      (Builder.lookup_enums_eq_none_iff _).2 (hiff.1 (by rw [hnode]; rfl))
    obtain ⟨e, root, node', hnode', hproperties, hrefs⟩ :=
      exists_object_record hnodup hd hentry henum
    -- There is one object of the name, so it is this one.
    rw [hnode] at hnode'
    cases hnode'
    have hnames : (ps.map (·.name)).Nodup :=
      (wellFormed_of_mem (mem_resolvedOf.1 hd).1).demand hentry
    refine ⟨_, Builder.property?_record hnames e hproperties hp, ?_⟩
    intro acceptEnums depth
    exact TypeMap.resolve_of_follows (follows_propertyEntry (hrefs p hp) acceptEnums) depth

/-- The store with a flag and a user has documents of different names, one of a record, and an
object for the record. -/
theorem resolve_property_flagStore :
    ((ofStore .standard [] flagStore).documents.map (·.typeName)).Nodup
      ∧ ∃ d ∈ resolved .standard [] flagStore, ∃ r, d.body = .record r
        ∧ ("test/user", Demand.record d.header.system r.properties r.requiredNames) ∈ d.demands
        ∧ ((ofStore .standard [] flagStore).typeMap.object? "test/user").isSome = true := by
  have hnodup : ((ofStore .standard [] flagStore).documents.map (·.typeName)).Nodup := by
    rw [(documents_perm_resolved.map (·.typeName)).nodup_iff]
    decide +kernel
  have huser : ∃ d ∈ resolved .standard [] flagStore, d.typeName = "test/user"
      ∧ d.kind = .record := by
    decide +kernel
  obtain ⟨d, hd, hname, hkind⟩ := huser
  unfold Definition.kind at hkind
  cases hbody : d.body with
  | record r =>
      have hentry : ("test/user", Demand.record d.header.system r.properties r.requiredNames)
          ∈ d.demands := by
        unfold Definition.demands
        rw [hbody, ← hname]
        exact List.mem_cons_self
      have hresolves := resolve_property .standard [] flagStore hnodup hd hentry
      exact ⟨hnodup, d, hd, r, hbody, hentry, hresolves.2.1 hname.symm⟩
  | _ =>
      rw [hbody] at hkind
      cases hkind

end Catalog

end TypeCatalog
