import TypeCatalog.Proofs.Catalog.Properties

/-!
# Records read back from their documents

A type map is made of documents and not of definitions, so what it says of a record was written down
by the emitter and read again by the builder. `object?_view` says that nothing is lost on the way.
The object of a record or of a variant has the summary of the definition, and its properties in the
order of the definition, each with its own summary and with the mark of those that are required.

`RecordView.node` is the object, written down without any document. The theorem also says when it is
there: a definition of an enum must not have the name. That is never so for a record itself, but the
type of a variant may be named like an enum that has no document.

The document is written by `Emitter.demandSchema` and `Emitter.propertySchema`, and read by
`Builder.closedProperties?`, `requiredNames` and the summaries that `Builder.objectNode` picks out
of the schemas of properties. `Builder.nodes_record` gives the nodes, and `TypeMap.object?` looks
the object up.
-/

set_option autoImplicit false

namespace TypeCatalog

/-- The object that stands for a view of a record in a type map. -/
def RecordView.node (system : String) (view : RecordView) : ObjectNode where
  system := system
  name := view.name
  documentation := Emitter.nonEmpty view.summary
  arrayCount := 0
  isRoot := true
  properties := view.properties.map fun p =>
    ⟨p.name, Emitter.nonEmpty p.summary, Name.qualify system view.name ++ "_" ++ p.name,
      view.required.contains p.name⟩

/-- What the builder reads of a property of a record is what the definition says. -/
theorem Builder.objectProperty_eq (e : Emitter) (root : Entry) (system : String)
    (required : List String) (p : Property) :
    objectProperty e root system required p
      = ⟨p.name, Emitter.nonEmpty p.summary, root.typeName ++ "_" ++ p.name,
        required.contains p.name⟩ := by
  have htarget : (propertyEntry root p.name).typeName = root.typeName ++ "_" ++ p.name := by
    unfold Entry.typeName propertyEntry Name.qualify
    simp only [String.append_assoc]
  unfold objectProperty
  rw [description_propertySchema, htarget]

/-- What the builder reads of the document of a view is the object of the view. -/
theorem Builder.recordNode_eq {e : Emitter} {root : Entry} {header : Header} {t system : String}
    {view : RecordView} (hroot : root.IsRootOf (Name.qualify system view.name))
    (hparts : root.system = system ∧ root.name = view.name)
    (hsummary : header.summary = view.summary) (hnodup : (view.properties.map (·.name)).Nodup) :
    recordNode e root t header system view.properties view.required = view.node system := by
  obtain ⟨hsystem, hname⟩ := hparts
  unfold recordNode RecordView.node
  rw [description_demandSchema_record e hnodup, hsummary, hsystem, hname, hroot.depth, hroot.isRoot]
  congr 1
  refine List.map_congr_left fun p _ => ?_
  rw [objectProperty_eq, hroot.typeName]

namespace Catalog

variable {settings : Settings} {formats : List Format} {store : Store}

section

variable (hnodup : ((ofStore settings formats store).documents.map (·.typeName)).Nodup)
  {d : Definition} (hd : d ∈ resolved settings formats store) {view : RecordView}
  (hview : view ∈ d.recordViews)

include hnodup hd hview

/-- The object that the type map has for a view whose name is not that of an enum. -/
theorem object?_eq_node (henum : (builderOf settings formats store).enums.lookup
      (Name.qualify d.header.system view.name) = none) :
    (ofStore settings formats store).typeMap.object? (Name.qualify d.header.system view.name)
      = some (view.node d.header.system) := by
  have hentry := Definition.mem_demands_record_iff.2 ⟨rfl, view, hview, rfl, rfl, rfl⟩
  have hnames : (view.properties.map (·.name)).Nodup :=
    (wellFormed_of_mem (mem_resolvedOf.1 hd).1).demand hentry
  have htargets : ∀ p ∈ view.properties,
      Name.IsTypeName (Emitter.propertyTarget d.header.system p) := fun p hp =>
    MeaningHypotheses.isTypeName_of_mem_targets hd hentry (List.mem_map.2 ⟨p, hp, rfl⟩)
  obtain ⟨root, header, hroot, hparts, hsummary, hagree⟩ := exists_agree_view hnodup hd hview
  rw [← hroot.typeName] at henum
  have hobject := (hagree _ (.inl hroot.typeName.symm)).2
  rw [Builder.nodes_record hnames htargets henum] at hobject
  rw [hobject, Builder.recordNode_eq hroot hparts hsummary hnames]
  -- The object of the document stands first, and has the name.
  exact List.find?_cons_of_pos (decide_eq_true rfl)

end

/-- What the type map of a batch says of a record or of a variant, where no two documents have the
same name. It has no object of the name exactly if a definition of an enum has that name, and so it
has one for a record itself in any case. If there is one, then it is that of the definition: its
summary and its properties in their order, each once. -/
theorem object?_view (settings : Settings) (formats : List Format) (store : Store)
    (hnodup : ((ofStore settings formats store).documents.map (·.typeName)).Nodup)
    {d : Definition} (hd : d ∈ resolved settings formats store) {view : RecordView}
    (hview : view ∈ d.recordViews) :
    let object := (ofStore settings formats store).typeMap.object?
      (Name.qualify d.header.system view.name)
    (object = none ↔ ∃ t ∈ (ofStore settings formats store).definitions,
      t.kind = .enum ∧ t.typeName = Name.qualify d.header.system view.name)
    ∧ (object = none ∨ object = some (view.node d.header.system))
    ∧ (view.name = d.header.name → object = some (view.node d.header.system))
    ∧ (view.properties.map (·.name)).Nodup := by
  intro object
  have hentry := Definition.mem_demands_record_iff.2 ⟨rfl, view, hview, rfl, rfl, rfl⟩
  have hcases : object = none ∨ object = some (view.node d.header.system) := by
    cases henum : (builderOf settings formats store).enums.lookup
        (Name.qualify d.header.system view.name) with
    | none => exact .inr (object?_eq_node hnodup hd hview henum)
    | some declared => exact .inl (object?_eq_none_of_enum hnodup hd hentry henum)
  have hiff := isSome_object?_iff hnodup hd hentry
  refine ⟨?_, hcases, ?_, ?_⟩
  · rw [← Option.not_isSome_iff_eq_none, hiff]
    push Not
    rfl
  · intro hname
    have hsome := hiff.2 (ne_of_enum hd hentry (congrArg (Name.qualify d.header.system) hname))
    refine hcases.resolve_left fun hnone => ?_
    rw [Option.isSome_iff_ne_none] at hsome
    exact hsome hnone
  · exact (wellFormed_of_mem (mem_resolvedOf.1 hd).1).demand hentry

/-- The store with a flag and a user has a view of the user itself, and the object of the user is
that of the view. -/
theorem object?_view_flagStore :
    ((ofStore .standard [] flagStore).documents.map (·.typeName)).Nodup
      ∧ ∃ d ∈ resolved .standard [] flagStore, ∃ view ∈ d.recordViews,
        view.properties.map (·.name) = ["active"]
        ∧ (ofStore .standard [] flagStore).typeMap.object? "test/user"
          = some (view.node "test") := by
  have hnodup : ((ofStore .standard [] flagStore).documents.map (·.typeName)).Nodup := by
    rw [(documents_perm_resolved.map (·.typeName)).nodup_iff]
    decide +kernel
  have huser : ∃ d ∈ resolved .standard [] flagStore, ∃ view ∈ d.recordViews,
      view.properties.map (·.name) = ["active"]
        ∧ d.header.system = "test" ∧ d.header.name = "user" ∧ view.name = d.header.name := by
    decide +kernel
  obtain ⟨d, hd, view, hview, hproperties, hsystem, huser, hname⟩ := huser
  obtain ⟨-, -, hobject, -⟩ := object?_view .standard [] flagStore hnodup hd hview
  have hnode := hobject hname
  rw [hsystem, hname, huser] at hnode
  exact ⟨hnodup, d, hd, view, hview, hproperties, hnode⟩

end Catalog

end TypeCatalog
