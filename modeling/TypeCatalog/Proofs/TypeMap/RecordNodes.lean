import TypeCatalog.Proofs.Schema.Reference
import TypeCatalog.Proofs.TypeMap.Nodes
import TypeCatalog.Proofs.Validation.Document

/-!
# Nodes of records

The document of a record gets one node for each property and one for the record. The node of a
property is a reference to the type of the property, with one list around it if the property is a
list; the node of the record is an object that names the nodes of its properties.

This holds unless the name of the document is that of a declared enum. The builder looks at the
names of enums first, and such a document becomes the reference of an enum, whatever it says.

The builder reads the document that `Emitter.demandSchema` writes, member by member: `enum` and
`$ref` are asked for in `Builder.refOf?`, `items` in `itemSchema?`, and `properties` with
`additionalProperties` in `closedProperties?`. `Builder.recordNode` and `propertyRef` are the nodes
that come out.
-/

set_option autoImplicit false

namespace TypeCatalog

namespace Builder

variable {b : Builder} {root : Entry} {system : String}

/-- The node of a property of a record. -/
def propertyRef (root : Entry) (system : String) (p : Property) : RefNode :=
  { (propertyEntry root p.name).ref (Emitter.propertyTarget system p) false with
    arrayCount := if p.array then 1 else 0 }

/-- The nodes of the properties of a record have different names. -/
theorem propertyEntry_injective (root : Entry) {p q : String}
    (h : (propertyEntry root p).typeName = (propertyEntry root q).typeName) : p = q := by
  have hlist := congrArg String.toList h
  unfold Entry.typeName propertyEntry at hlist
  rw [Name.toList_qualify, Name.toList_qualify, String.toList_append, String.toList_append,
    String.toList_append, String.toList_append] at hlist
  exact String.toList_inj.1 (by simpa using hlist)

/-! ## Properties -/

/-- What is read of the schema of a property besides its description. -/
theorem member?_propertySchema (e : Emitter) (system : String) (p : Property) {name : String}
    (hname : name ≠ "description") :
    (e.propertySchema system p).member? name
      = (if p.array then
          [("type", Json.string "array"),
            ("items", .object [("$ref", .string (e.uri (Emitter.propertyTarget system p)))])]
        else [("$ref", .string (e.uri (Emitter.propertyTarget system p)))]).lookup name := by
  have hnone : (Emitter.summaryMembers p).lookup name = none := by
    refine Table.lookup_eq_none_iff_forall.2 fun hmem => ?_
    obtain ⟨m, hm, rfl⟩ := List.mem_map.1 hmem
    unfold Emitter.summaryMembers at hm
    obtain ⟨s, -, rfl⟩ := Option.map_eq_some_iff.1 (Option.mem_toList.1 hm)
    exact hname rfl
  rw [Emitter.propertySchema_eq]
  show List.lookup name (_ ++ _) = _
  rw [List.lookup_append, hnone, Option.none_or]

/-- A schema that is a reference to a type is entered as one. -/
theorem refOf?_reference {entry : Entry} (hroot : entry.isRoot = false) {schema : Json} {t : String}
    (ht : Name.IsTypeName t) (henum : schema.member? "enum" = none)
    (href : schema.member? "$ref" = some (.string ((Emitter.ofDomain b.domain).uri t))) :
    b.refOf? entry schema = some (entry.ref t false) := by
  unfold refOf?
  rw [hroot, henum, href]
  show some (entry.ref (Name.resolve (some b.domain) entry.system _) false) = _
  rw [Name.resolve_uri ht]

/-- The schema of a property gets one node. -/
theorem nodes_propertySchema {p : Property}
    (ht : Name.IsTypeName (Emitter.propertyTarget system p)) :
    b.nodes (propertyEntry root p.name) ((Emitter.ofDomain b.domain).propertySchema system p)
      = .ofRef (propertyRef root system p) := by
  have hmember (name : String) (hname : name ≠ "description") :=
    member?_propertySchema (Emitter.ofDomain b.domain) system p hname
  cases harray : p.array with
  | true =>
      rw [harray] at hmember
      have henum := hmember "enum" (by decide)
      have href := hmember "$ref" (by decide)
      have htype := hmember "type" (by decide)
      have hitems := hmember "items" (by decide)
      -- A list has a `type` and `items`, but neither `enum` nor `$ref`.
      have hother : b.refOf? (propertyEntry root p.name)
          ((Emitter.ofDomain b.domain).propertySchema system p) = none := by
        unfold refOf?
        rw [henum, href, htype]
        rfl
      have hlist : itemSchema? ((Emitter.ofDomain b.domain).propertySchema system p)
          = some (.object [("$ref", .string
            ((Emitter.ofDomain b.domain).uri (Emitter.propertyTarget system p)))]) := by
        unfold itemSchema?
        rw [htype, hitems]
        rfl
      rw [nodes_of_itemSchema? hother hlist, nodes_of_refOf? (refOf?_reference rfl ht rfl rfl)]
      unfold propertyRef
      rw [harray]
      rfl
  | false =>
      rw [harray] at hmember
      rw [nodes_of_refOf? (refOf?_reference rfl ht (hmember "enum" (by decide))
        (hmember "$ref" (by decide)))]
      unfold propertyRef
      rw [harray]
      rfl

/-- A property of the object node of a record. -/
def objectProperty (e : Emitter) (root : Entry) (system : String) (required : List String)
    (p : Property) : ObjectProperty :=
  ⟨p.name, description (e.propertySchema system p), (propertyEntry root p.name).typeName,
    required.contains p.name⟩

/-- The schemas of properties get one node each, in their order. -/
theorem propertyNodes_record {ps : List Property} (required : List String)
    (ht : ∀ p ∈ ps, Name.IsTypeName (Emitter.propertyTarget system p)) :
    b.propertyNodes root required
        (ps.map fun p => (p.name, (Emitter.ofDomain b.domain).propertySchema system p))
      = (⟨[], ps.map (propertyRef root system)⟩,
        ps.map (objectProperty (Emitter.ofDomain b.domain) root system required)) := by
  induction ps with
  | nil => rw [List.map_nil, propertyNodes]; rfl
  | cons p ps ih =>
      rw [List.map_cons, propertyNodes, ih fun q hq => ht q (.tail _ hq)]
      dsimp only
      rw [nodes_propertySchema (ht p (.head _))]
      rfl

/-! ## Records -/

variable {ps : List Property} {required : List String} {header : Header} {t : String}

/-- What is read of the document of a record behind its header. -/
theorem member?_demandSchema_record (e : Emitter) (hnodup : (ps.map (·.name)).Nodup) (name : String)
    (hname : name ∉ ["$schema", "$id", "title", "description", "deprecated", "examples"]) :
    (e.demandSchema t header (.record system ps required)).member? name
      = (("type", Json.string "object") :: ("additionalProperties", .bool false)
        :: ("properties", .object (ps.map fun p => (p.name, e.propertySchema system p)))
        :: Emitter.requiredMembers required).lookup name := by
  have hnone : (e.headerMembers t header).lookup name = none := by
    refine Table.lookup_eq_none_iff_forall.2 fun hmem => ?_
    obtain ⟨m, hm, rfl⟩ := List.mem_map.1 hmem
    exact hname (Emitter.fst_mem_of_mem_headerMembers hm)
  unfold Emitter.demandSchema
  rw [Emitter.demandMembers_record hnodup]
  show List.lookup name (_ ++ _) = _
  rw [List.lookup_append, hnone, Option.none_or]

/-- The schema of a record has no members but those of its header and of its demand. -/
theorem member?_demandSchema_record_eq_none (e : Emitter) (hnodup : (ps.map (·.name)).Nodup)
    {name : String}
    (hheader : name ∉ ["$schema", "$id", "title", "description", "deprecated", "examples"])
    (hmembers : name ∉ ["type", "additionalProperties", "properties", "required"]) :
    (e.demandSchema t header (.record system ps required)).member? name = none := by
  rw [member?_demandSchema_record e hnodup name hheader]
  refine Table.lookup_eq_none_iff_forall.2 fun hmem => hmembers ?_
  unfold Emitter.requiredMembers at hmem
  cases required with
  | nil => exact List.mem_append_left ["required"] hmem
  | cons r rs => exact hmem

/-- The names that the document of a record requires are those that were written. -/
theorem requiredNames_demandSchema_record (e : Emitter) (hnodup : (ps.map (·.name)).Nodup) :
    requiredNames (e.demandSchema t header (.record system ps required)) = required := by
  have hrequired : ("required" : String) ∉
      ["$schema", "$id", "title", "description", "deprecated", "examples"] := by decide
  unfold requiredNames
  rw [member?_demandSchema_record e hnodup _ hrequired]
  cases required with
  | nil => rfl
  | cons r rs =>
      show ((r :: rs).map Json.string).filterMap Json.string? = r :: rs
      rw [List.filterMap_map]
      exact List.filterMap_some

/-! ### Descriptions -/

/-- A text that is left out when it is empty is left out once and for all. -/
theorem nonEmpty_nonEmpty (s : Option String) :
    Emitter.nonEmpty (Emitter.nonEmpty s) = Emitter.nonEmpty s := by
  unfold Emitter.nonEmpty
  rw [Option.filter_filter]
  simp only [Bool.and_self]

/-- A summary that is written down is read as the description. -/
theorem description_eq_nonEmpty {summary : Option String} {schema : Json}
    (h : schema.member? "description" = (Emitter.nonEmpty summary).map Json.string) :
    description schema = Emitter.nonEmpty summary := by
  unfold description
  rw [h, Option.bind_map]
  show Emitter.nonEmpty ((Emitter.nonEmpty summary).bind some) = _
  rw [Option.bind_fun_some, nonEmpty_nonEmpty]

/-- The description of the schema of a property is the summary of the property. -/
theorem description_propertySchema (e : Emitter) (system : String) (p : Property) :
    description (e.propertySchema system p) = Emitter.nonEmpty p.summary := by
  refine description_eq_nonEmpty ?_
  rw [Emitter.propertySchema_eq]
  unfold Emitter.summaryMembers
  cases Emitter.nonEmpty p.summary with
  | some s => rfl
  | none =>
      show List.lookup "description" (if p.array then _ else _) = none
      split <;> rfl

/-- The description that a document begins with is the summary of its type. -/
theorem description_headerMembers (e : Emitter) {ms : List (String × Json)}
    (hms : "description" ∉ ms.map Prod.fst) :
    description (.object (e.headerMembers t header ++ ms)) = Emitter.nonEmpty header.summary := by
  refine description_eq_nonEmpty ?_
  have hrest : ms.lookup "description" = none := Table.lookup_eq_none_iff_forall.2 hms
  show List.lookup "description" (e.headerMembers t header ++ ms) = _
  rw [List.lookup_append, hrest, Option.or_none]
  unfold Emitter.headerMembers
  -- The members behind the summary are there or not, but are named otherwise.
  cases Emitter.nonEmpty header.summary with
  | some s => rfl
  | none =>
      cases header.deprecated.isSome <;> cases header.examples.getD [] <;> rfl

/-- The description of the document of a record is the summary of the record. -/
theorem description_demandSchema_record (e : Emitter) (hnodup : (ps.map (·.name)).Nodup) :
    description (e.demandSchema t header (.record system ps required))
      = Emitter.nonEmpty header.summary := by
  refine description_headerMembers e ?_
  rw [Emitter.demandMembers_record hnodup]
  unfold Emitter.requiredMembers
  split <;> simp

/-- The object node of a record. -/
def recordNode (e : Emitter) (root : Entry) (t : String) (header : Header) (system : String)
    (ps : List Property) (required : List String) : ObjectNode :=
  ⟨root.system, root.name, description (e.demandSchema t header (.record system ps required)),
    root.depth, root.isRoot, ps.map (objectProperty e root system required)⟩

/-- The nodes of the document of a record whose name is not that of an enum. -/
theorem nodes_record (hnodup : (ps.map (·.name)).Nodup)
    (ht : ∀ p ∈ ps, Name.IsTypeName (Emitter.propertyTarget system p))
    (henum : b.enums.lookup root.typeName = none) :
    b.nodes root ((Emitter.ofDomain b.domain).demandSchema t header (.record system ps required))
      = ⟨[recordNode (Emitter.ofDomain b.domain) root t header system ps required],
        ps.map (propertyRef root system)⟩ := by
  -- The document has no `enum` and no `$ref`, and its `type` names no scalar.
  have hother : b.refOf? root
      ((Emitter.ofDomain b.domain).demandSchema t header (.record system ps required)) = none := by
    unfold refOf?
    rw [henum, ite_self, member?_demandSchema_record_eq_none _ hnodup (by decide) (by decide),
      member?_demandSchema_record_eq_none _ hnodup (by decide) (by decide),
      member?_demandSchema_record _ hnodup "type" (by decide)]
    rfl
  have hnoList : itemSchema?
      ((Emitter.ofDomain b.domain).demandSchema t header (.record system ps required)) = none := by
    unfold itemSchema?
    rw [member?_demandSchema_record _ hnodup "type" (by decide)]
    rfl
  have hclosed : closedProperties?
      ((Emitter.ofDomain b.domain).demandSchema t header (.record system ps required))
        = some (ps.map fun p =>
            (p.name, (Emitter.ofDomain b.domain).propertySchema system p)) := by
    unfold closedProperties?
    rw [member?_demandSchema_record _ hnodup "type" (by decide),
      member?_demandSchema_record _ hnodup "properties" (by decide),
      member?_demandSchema_record _ hnodup "additionalProperties" (by decide)]
    rfl
  rw [nodes_of_closedProperties? hother hnoList hclosed, propertyNodes_record _ ht,
    requiredNames_demandSchema_record _ hnodup]
  show (⟨_, ps.map (propertyRef root system) ++ []⟩ : TypeMap) = _
  rw [List.append_nil]
  rfl

/-- The nodes of a document whose name is that of an enum hold no object. -/
theorem objects_nodes_of_enum {schema : Json} {declared : EnumRoot} (hroot : root.isRoot = true)
    (henum : b.enums.lookup root.typeName = some declared) :
    (b.nodes root schema).objects = [] := by
  have href : ∃ n, b.refOf? root schema = some n := by
    unfold refOf?
    rw [hroot, if_pos rfl, henum]
    exact ⟨_, rfl⟩
  obtain ⟨n, hn⟩ := href
  rw [nodes_of_refOf? hn]
  rfl

/-! ## What names lead to -/

/-- The node of a property is found by its name. -/
theorem ref?_record (hnodup : (ps.map (·.name)).Nodup) {objects : List ObjectNode} {p : Property}
    (hp : p ∈ ps) :
    (⟨objects, ps.map (propertyRef root system)⟩ : TypeMap).ref?
      (propertyEntry root p.name).typeName = some (propertyRef root system p) := by
  have hnames : ((ps.map (propertyRef root system)).map RefNode.typeName).Nodup := by
    rw [List.map_map]
    refine List.Nodup.map_on (fun q hq q' hq' heq => ?_) (List.Nodup.of_map _ hnodup)
    have hname : q.name = q'.name := propertyEntry_injective root heq
    exact List.inj_on_of_nodup_map hnodup hq hq' hname
  exact Table.find?_of_mem RefNode.typeName hnames (List.mem_map_of_mem hp)

/-- The property of a name is found in the object. -/
theorem property?_record (hnodup : (ps.map (·.name)).Nodup) (e : Emitter) {node : ObjectNode}
    (hnode : node.properties = ps.map (objectProperty e root system required)) {p : Property}
    (hp : p ∈ ps) : node.property? p.name = some (objectProperty e root system required p) := by
  have hnames : ((ps.map (objectProperty e root system required)).map
      ObjectProperty.name).Nodup := by
    rw [List.map_map]
    exact hnodup
  unfold ObjectNode.property?
  rw [hnode]
  exact Table.find?_of_mem ObjectProperty.name hnames (List.mem_map_of_mem hp)

end Builder

end TypeCatalog
