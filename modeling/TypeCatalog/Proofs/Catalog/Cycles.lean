import TypeCatalog.Proofs.Catalog.Acyclic

/-!
# No circles without fragments

Where no definition is given as a schema, the type map of a batch has no circles, even if documents
share names and it is not clear which one a walk comes to. A reference in the map is that of a
single value or an enum, where a walk stops, or that of a property, and then it leads to a type. The
names of properties have a sign in them that no name of a type has. So behind a property there is no
other one, and a walk has two steps at most.

`TypeMap.cycles` walks from every name with enums accepted. `RefNode.EndsSoon` says of a reference
that a walk stops at it, or that it leads to a type and is the node of a property.
-/

set_option autoImplicit false

namespace TypeCatalog

/-- A property of a record has a name that no type has. -/
theorem Builder.not_isTypeName_propertyEntry (root : Entry) (property : String) :
    ¬ Name.IsTypeName (Builder.propertyEntry root property).typeName := by
  rintro ⟨system, name, hs, hn, heq⟩
  rw [Builder.typeName_propertyEntry] at heq
  have hmem : '_' ∈ (Name.qualify system name).toList := by
    rw [← heq, String.toList_append, String.toList_append]
    exact List.mem_append_left _ (List.mem_append_right _ List.mem_cons_self)
  exact Name.notMem_qualify hs hn (by decide) (by decide) hmem

namespace RefNode

/-- Whether a walk that accepts enums stops at a reference, or the reference leads from a name of
another sort to a type. -/
def EndsSoon (n : RefNode) : Prop :=
  n.isRoot = true ∧ (n.isScalar = true ∨ n.isEnum = true)
    ∨ ¬ Name.IsTypeName n.typeName ∧ Name.IsTypeName n.target

end RefNode

namespace TypeMap

variable {m : TypeMap} (h : ∀ n ∈ m.refs, n.EndsSoon)

include h

/-- A walk from a type stops at once. -/
theorem exists_stops_of_isTypeName {t : String} (ht : Name.IsTypeName t) :
    ∃ depth r, m.Stops true t depth r := by
  have hqualified : isQualified t = true := by
    obtain ⟨system, name, -, -, rfl⟩ := ht
    exact isQualified_qualify system name
  cases href : m.ref? t with
  | some n =>
      have hname : n.typeName = t := by simpa using List.find?_some href
      rcases h n (List.mem_of_find?_eq_some href) with ⟨hroot, hkind⟩ | ⟨hother, -⟩
      · cases hscalar : n.isScalar with
        | true => exact ⟨_, _, .scalar hqualified href hroot hscalar⟩
        | false =>
            have henum := hkind.resolve_left (by rw [hscalar]; exact Bool.false_ne_true)
            exact ⟨_, _, .enum hqualified href hroot hscalar henum rfl⟩
      · rw [hname] at hother
        exact absurd ht hother
  | none =>
      cases hobject : m.object? t with
      | some n => exact ⟨_, _, .object hqualified href hobject⟩
      | none => exact ⟨_, _, .unknown hqualified href hobject⟩

/-- A walk from any name stops, or goes on to a type and stops there. -/
theorem exists_reaches_of_endsSoon (name : String) :
    ∃ stop total r, m.Reaches true name stop total r := by
  cases hqualified : isQualified name with
  | false => exact ⟨_, _, _, .stop (.primitive hqualified)⟩
  | true =>
      cases href : m.ref? name with
      | none =>
          cases hobject : m.object? name with
          | some n => exact ⟨_, _, _, .stop (.object hqualified href hobject)⟩
          | none => exact ⟨_, _, _, .stop (.unknown hqualified href hobject)⟩
      | some n =>
          by_cases hstop : n.isRoot = true ∧ (n.isScalar = true ∨ n.isEnum = true)
          · obtain ⟨hroot, hkind⟩ := hstop
            cases hscalar : n.isScalar with
            | true => exact ⟨_, _, _, .stop (.scalar hqualified href hroot hscalar)⟩
            | false =>
                have henum := hkind.resolve_left (by rw [hscalar]; exact Bool.false_ne_true)
                -- The node is not one where a walk stops, so it leads to a type.
                exact ⟨_, _, _, .stop (.enum hqualified href hroot hscalar henum rfl)⟩
          · obtain ⟨-, htarget⟩ := (h n (List.mem_of_find?_eq_some href)).resolve_left hstop
            obtain ⟨depth, r, hstops⟩ := exists_stops_of_isTypeName h htarget
            have hgoes : ¬ (n.isRoot = true
                ∧ (n.isScalar = true ∨ n.isEnum = true ∧ true = true)) := by
              rwa [and_iff_left rfl]
            exact ⟨_, _, _, .step (.ref hqualified href hgoes) (.stop hstops)⟩

/-- So no circle is found. -/
theorem cycles_eq_nil_of_endsSoon : m.cycles = [] := by
  refine cycles_eq_nil_iff.2 fun name _ => ?_
  obtain ⟨stop, total, r, hreaches⟩ := exists_reaches_of_endsSoon h name
  exact ⟨_, resolve_of_reaches hreaches 0⟩

end TypeMap

namespace Catalog

variable {settings : Settings} {formats : List Format} {store : Store}

/-- The references that the builder makes of a document. -/
theorem endsSoon_of_mem_nodes
    (hkinds : ∀ d ∈ (ofStore settings formats store).definitions, d.kind ≠ .object) {root : Entry}
    {document : Document} (hdocument : document ∈ (ofStore settings formats store).documents)
    (hroot : root.IsRootOf document.typeName) {n : RefNode}
    (hn : n ∈ ((builderOf settings formats store).nodes root document.schema).refs) :
    n.EndsSoon := by
  obtain ⟨d, hd, hmem⟩ := mem_documents.1 hdocument
  have hdefinition := (mem_resolvedOf.1 hd).1
  obtain ⟨demand, header, hentry, hschema⟩ := (Emitter.ofDomain settings.domain
    ).exists_demand_of_mem_documentsOf (hkinds d hdefinition) hmem
  cases henum : (builderOf settings formats store).enums.lookup root.typeName with
  | some declared =>
      obtain ⟨n', href, -, -, hisRoot, -, hisEnum⟩ :=
        @Builder.exists_refOf?_of_enum _ root document.schema hroot.isRoot declared henum
      rw [Builder.nodes_of_refOf? href] at hn
      rw [List.mem_singleton.1 hn]
      exact .inl ⟨hisRoot, .inr hisEnum⟩
  | none =>
      rw [hschema] at hn
      cases hprimitive : demand.primitive? with
      | some t =>
          rw [Builder.nodes_of_refOf? (Builder.refOf?_of_primitive? henum hprimitive)] at hn
          rw [List.mem_singleton.1 hn]
          exact .inl ⟨hroot.isRoot, .inl rfl⟩
      | none =>
          cases demand with
          | enum values =>
              -- Only the document of an enum lists values, and that is entered as the enum.
              obtain ⟨hkind, hname⟩ := Definition.kind_of_enum hentry
              rw [hroot.typeName] at henum
              exact absurd ⟨d, hdefinition, hkind, hname.symm⟩ (lookup_enums_eq_none_iff.1 henum)
          | record system ps required =>
              have hnames : (ps.map (·.name)).Nodup := (wellFormed_of_mem hdefinition).demand hentry
              have htargets : ∀ p ∈ ps, Name.IsTypeName (Emitter.propertyTarget system p) :=
                fun p hp => MeaningHypotheses.isTypeName_of_mem_targets hd hentry
                  (List.mem_map.2 ⟨p, hp, rfl⟩)
              have hrefs : ((builderOf settings formats store).nodes root
                  ((Emitter.ofDomain settings.domain).demandSchema document.typeName header
                    (.record system ps required))).refs
                      = ps.map (Builder.propertyRef root system) :=
                congrArg TypeMap.refs (Builder.nodes_record hnames htargets henum)
              rw [hrefs] at hn
              obtain ⟨p, hp, rfl⟩ := List.mem_map.1 hn
              exact .inr ⟨Builder.not_isTypeName_propertyEntry root p.name, htargets p hp⟩
          | _ => cases hprimitive

/-- The type map of a batch has no circles where no definition is given as a schema. -/
theorem cycles_eq_nil_of_kinds
    (hkinds : ∀ d ∈ (ofStore settings formats store).definitions, d.kind ≠ .object) :
    (ofStore settings formats store).typeMap.cycles = [] := by
  refine TypeMap.cycles_eq_nil_of_endsSoon fun n hn => ?_
  have hhas : (ofStore settings formats store).typeMap.Has (.ref n) := hn
  rw [typeMap_ofStore] at hhas
  obtain ⟨nodes, hnodes, hn⟩ := TypeMap.has_concat.1 hhas
  obtain ⟨entry, hentry, rfl⟩ := List.mem_map.1 hnodes
  obtain ⟨system, name, hname, hs, hn'⟩ := exists_of_mem_entries entry hentry
  obtain ⟨d, hd, hmem⟩ := List.mem_flatMap.1 hentry
  have hdocument : entry.2 ∈ (Emitter.ofDomain settings.domain).documentsOf d := by
    rw [← Builder.map_snd_entriesOf]
    exact List.mem_map.2 ⟨entry, hmem, rfl⟩
  have hroot : Entry.IsRootOf ⟨system, name, true, entry.1, 0⟩ entry.2.typeName :=
    ⟨hname.symm, rfl, rfl, hs, hn'⟩
  refine endsSoon_of_mem_nodes hkinds (mem_documents.2 ⟨d, hd, hdocument⟩) hroot ?_
  have hnodes :=
    @Builder.documentNodes_eq (builderOf settings formats store) entry.1 _ _ _ hn' hname
  rw [← hnodes]
  exact hn

end Catalog

end TypeCatalog
