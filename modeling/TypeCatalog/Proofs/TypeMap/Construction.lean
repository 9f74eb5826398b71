import TypeCatalog.Proofs.TypeMap.Nodes
import TypeCatalog.TypeMap.Construction
import TypeCatalog.TypeMap.Resolve

/-!
# What every type map in the making has

Enums are made known, definitions are entered and schemas are entered, in any order and with
anything that may stand in them. `Construction.apply_map` says what one call can do to the map: it
puts nodes behind those that are there. So a node never moves, and what is shown of the new nodes
holds of the whole map after any number of calls.

Two things are shown of the nodes (`TypeMap.WellFormed`). A property of an object names a node that
is in the map. A reference is a scalar, an enum or an alias, and which of the three it is says what
it refers to: a scalar and an enum to one of five types that have no node, and an alias to a
qualified name.

`TypeMap.WellFormed` says nothing of where an alias leads: the name of its target may have no node,
as in a map of which only some definitions were entered.

`Construction.apply` is one call: `withEnums`, `addDefinition` or `addSchema`. The builder threads
the map through its recursion, as `addSchema` does, and `addSchema_eq` turns this into the nodes
that `Builder.nodes` gives by themselves. From there on a call is `Construction.extend` with these
nodes, and `wellFormed_nodes` is shown without any map around them.
-/

set_option autoImplicit false

namespace TypeCatalog

/-- What scalars and enums refer to. -/
def RefNode.leaves : List String := ["string", "number", "integer", "boolean", "object"]

/-- What every reference has that a builder makes:
* it is one of scalar, enum and alias;
* a scalar or an enum refers to a leaf, whose name has no slash;
* an alias refers to a name with a slash;
* the items of an enum are there if it is one;
* an enum is a root. -/
structure RefNode.WellFormed (n : RefNode) : Prop where
  sort : (n.isScalar, n.isEnum, n.isAlias)
    ∈ [(true, false, false), (false, true, false), (false, false, true)]
  leaf : n.isAlias = false → n.target ∈ leaves ∧ TypeMap.isQualified n.target = false
  qualified : n.isAlias = true → TypeMap.isQualified n.target = true
  items : n.enumItems.isSome = n.isEnum
  enum : n.isEnum = true → n.isRoot = true

/-- What every map has that a builder makes: properties name nodes of the map, and references are
well formed. -/
structure TypeMap.WellFormed (m : TypeMap) : Prop where
  property : ∀ n ∈ m.objects, ∀ p ∈ n.properties, p.target ∈ m.typeNames
  ref : ∀ n ∈ m.refs, n.WellFormed

/-! ## References -/

/-- No name of a leaf is qualified. -/
theorem RefNode.isQualified_of_mem_leaves {t : String} (h : t ∈ leaves) :
    TypeMap.isQualified t = false := by
  have hall : ∀ t ∈ leaves, TypeMap.isQualified t = false := by decide
  exact hall t h

/-- A name that is put together of two is qualified. -/
theorem TypeMap.isQualified_qualify (system name : String) :
    isQualified (Name.qualify system name) = true := by
  unfold isQualified
  rw [Name.toList_qualify]
  simp

/-- Whatever a reference says, it is resolved to a name with a slash. -/
theorem TypeMap.isQualified_resolve (domain : Option String) (system reference : String) :
    isQualified (Name.resolve domain system reference) = true := by
  unfold Name.resolve
  exact isQualified_qualify _ _

namespace Entry

/-- The reference to a leaf is a scalar. -/
theorem wellFormed_ref_leaf (e : Entry) {t : String} (ht : t ∈ RefNode.leaves) :
    (e.ref t true).WellFormed where
  sort := .head _
  leaf := fun _ => ⟨ht, RefNode.isQualified_of_mem_leaves ht⟩
  qualified := fun h => Bool.noConfusion h
  items := rfl
  enum := fun h => Bool.noConfusion h

/-- The reference to a qualified name is an alias. -/
theorem wellFormed_ref_qualified (e : Entry) {t : String} (ht : TypeMap.isQualified t = true) :
    (e.ref t false).WellFormed where
  sort := .tail _ (.tail _ (.head _))
  leaf := fun h => Bool.noConfusion h
  qualified := fun _ => ht
  items := rfl
  enum := fun h => Bool.noConfusion h

end Entry

namespace Builder

/-- The type of a constant is a leaf. -/
theorem primitiveOf_mem_leaves (v : Json) : primitiveOf v ∈ RefNode.leaves := by
  unfold primitiveOf
  split <;> decide

/-- So is a type that the keyword `type` may name. -/
theorem mem_leaves_of_contains {t : String} (h : primitives.contains t = true) :
    t ∈ RefNode.leaves :=
  List.mem_append_left ["object"] (List.contains_iff_mem.1 h)

/-- Each shape that makes a reference of a schema makes a well-formed one. -/
theorem wellFormed_of_refOf? {b : Builder} {e : Entry} {schema : Json} {n : RefNode}
    (h : b.refOf? e schema = some n) : n.WellFormed := by
  unfold refOf? at h
  split at h
  · next root hroot =>
      -- The enums are looked at for roots only.
      have hisRoot : e.isRoot = true := by
        by_contra hnot
        rw [if_neg hnot] at hroot
        cases hroot
      cases h
      exact {
        sort := .tail _ (.head _)
        leaf := fun _ => ⟨.head _, RefNode.isQualified_of_mem_leaves (.head _)⟩
        qualified := fun h => Bool.noConfusion h
        items := rfl
        enum := fun _ => hisRoot }
  · split at h
    · next first _ =>
        cases h
        -- A constant, the target of a `$ref`, and a type that `type` names, in this order.
        exact e.wellFormed_ref_leaf (primitiveOf_mem_leaves first)
    · split at h
      · next reference _ =>
          cases h
          exact e.wellFormed_ref_qualified (TypeMap.isQualified_resolve _ _ _)
      · obtain ⟨t, -, h⟩ := Option.bind_eq_some_iff.1 h
        split at h
        · next hprimitive =>
            cases h
            exact e.wellFormed_ref_leaf (mem_leaves_of_contains hprimitive)
        · cases h

end Builder

/-! ## Maps -/

namespace TypeMap

/-- The empty map is well formed. -/
theorem wellFormed_empty : empty.WellFormed where
  property := fun _ hn => absurd hn List.not_mem_nil
  ref := fun _ hn => absurd hn List.not_mem_nil

/-- So is the map of one well-formed reference. -/
theorem wellFormed_ofRef {n : RefNode} (h : n.WellFormed) : (ofRef n).WellFormed where
  property := fun _ hn => absurd hn List.not_mem_nil
  ref := fun _ hr => List.mem_singleton.1 hr ▸ h

/-- More nodes do not take away those that a property names. -/
theorem WellFormed.append {m n : TypeMap} (hm : m.WellFormed) (hn : n.WellFormed) :
    (m ++ n).WellFormed where
  property := by
    intro o ho p hp
    rw [objects_append, List.mem_append] at ho
    rcases ho with ho | ho
    · exact mem_typeNames_append.2 (.inl (hm.property o ho p hp))
    · exact mem_typeNames_append.2 (.inr (hn.property o ho p hp))
  ref := by
    intro r hr
    rw [refs_append, List.mem_append] at hr
    rcases hr with hr | hr
    · exact hm.ref r hr
    · exact hn.ref r hr

/-- And so are any number of well-formed maps behind each other. -/
theorem wellFormed_concat {maps : List TypeMap} (h : ∀ m ∈ maps, m.WellFormed) :
    (concat maps).WellFormed := by
  induction maps with
  | nil => exact wellFormed_empty
  | cons m maps ih =>
      rw [concat_cons]
      have hrest := ih fun n hn => h n (.tail _ hn)
      exact (h m (.head _)).append hrest

/-- An object may be put behind a map that has the nodes of its properties. -/
theorem WellFormed.append_ofObject {m : TypeMap} (hm : m.WellFormed) {n : ObjectNode}
    (hn : ∀ p ∈ n.properties, p.target ∈ m.typeNames) : (m ++ ofObject n).WellFormed where
  property := by
    intro o ho p hp
    rw [objects_append, List.mem_append] at ho
    refine mem_typeNames_append.2 (.inl ?_)
    rcases ho with ho | ho
    · exact hm.property o ho p hp
    · rw [List.mem_singleton.1 ho] at hp
      exact hn p hp
  ref := by
    intro r hr
    rw [refs_append, List.mem_append] at hr
    rcases hr with hr | hr
    · exact hm.ref r hr
    · exact absurd hr List.not_mem_nil

end TypeMap

namespace Builder

/-- The nodes of a schema, however deep, are well formed by themselves: what a property of an object
names was entered right before the object. -/
theorem wellFormed_nodes (b : Builder) (e : Entry) (schema : Json) :
    (b.nodes e schema).WellFormed := by
  induction e, schema using induction_of_shapes b with
  | reference e schema n href =>
      rw [nodes_of_refOf? href]
      exact TypeMap.wellFormed_ofRef (wellFormed_of_refOf? href)
  | list e schema items href hitems ih =>
      rw [nodes_of_itemSchema? href hitems]
      exact ih
  | closed e schema ps href hitems hclosed ih =>
      rw [nodes_eq_of_closedProperties? href hitems hclosed]
      have hinner : (TypeMap.concat
          (ps.map fun m => b.nodes (propertyEntry e m.1) m.2)).WellFormed := by
        refine TypeMap.wellFormed_concat fun n hn => ?_
        obtain ⟨m, hm, rfl⟩ := List.mem_map.1 hn
        exact ih m hm
      refine hinner.append_ofObject fun p hp => ?_
      obtain ⟨m, hm, rfl⟩ := List.mem_map.1 hp
      refine TypeMap.mem_typeNames_concat.2 ⟨_, List.mem_map_of_mem hm, ?_⟩
      exact typeName_mem_nodes b (propertyEntry e m.1) m.2
  | other e schema href hitems hclosed =>
      rw [nodes_of_other href hitems hclosed]
      exact TypeMap.wellFormed_ofRef (e.wellFormed_ref_leaf (by decide))

/-- The nodes of a document are well formed. -/
theorem wellFormed_documentNodes (b : Builder) (examples : List Json) (document : Document) :
    (b.documentNodes examples document).WellFormed := by
  unfold documentNodes
  split
  · exact wellFormed_nodes b _ _
  · exact TypeMap.wellFormed_empty

/-- So are those of all documents of a definition. -/
theorem wellFormed_definitionNodes (b : Builder) (d : Definition) (emitted : Emitted) :
    (b.definitionNodes d emitted).WellFormed := by
  refine (wellFormed_documentNodes b _ _).append ?_
  refine TypeMap.wellFormed_concat fun m hm => ?_
  obtain ⟨document, -, rfl⟩ := List.mem_map.1 hm
  exact wellFormed_documentNodes b _ _

end Builder

/-! ## Calls -/

namespace Construction

/-- The construction with more nodes behind those that are there. -/
def extend (c : Construction) (added : TypeMap) : Construction := { c with map := c.map ++ added }

/-- To push a reference is to extend the map by it. -/
theorem pushRef_eq (c : Construction) (n : RefNode) : c.pushRef n = c.extend (.ofRef n) := by
  unfold pushRef extend
  congr 1
  exact congrArg (TypeMap.mk · _) (List.append_nil _).symm

/-- To push an object is to extend the map by it. -/
theorem pushObject_eq (c : Construction) (n : ObjectNode) :
    c.pushObject n = c.extend (.ofObject n) := by
  unfold pushObject extend
  congr 1
  exact congrArg (TypeMap.mk _) (List.append_nil _).symm

/-- To extend a map by nothing leaves it. -/
theorem extend_empty (c : Construction) : c.extend .empty = c := by
  unfold extend
  rw [TypeMap.append_empty]

/-- To extend a map twice is to extend it by both, one behind the other. -/
theorem extend_extend (c : Construction) (m n : TypeMap) :
    (c.extend m).extend n = c.extend (m ++ n) := by
  unfold extend
  rw [← TypeMap.append_assoc]

/-- The builder stays when the map is extended. -/
@[simp]
theorem extend_builder (c : Construction) (m : TypeMap) : (c.extend m).builder = c.builder := rfl

/-- Properties are entered one after the other, if their values are. -/
theorem addProperties_eq (b : Builder) (e : Entry) (required : List String)
    {ps : List (String × Json)}
    (h : ∀ m ∈ ps, ∀ c : Construction, c.builder = b →
      c.addSchema (Builder.propertyEntry e m.1) m.2
        = ((Builder.propertyEntry e m.1).typeName,
          c.extend (b.nodes (Builder.propertyEntry e m.1) m.2)))
    (c : Construction) (hc : c.builder = b) :
    c.addProperties e required ps
      = ((b.propertyNodes e required ps).2, c.extend (b.propertyNodes e required ps).1) := by
  -- The nodes of the values so far stand in the construction that the rest starts from.
  induction ps generalizing c with
  | nil =>
      rw [addProperties, Builder.propertyNodes, extend_empty]
  | cons m ps ih =>
      rw [addProperties, Builder.propertyNodes, h m (.head _) c hc]
      dsimp only
      have hrest := ih (fun n hn => h n (.tail _ hn))
        (c.extend (b.nodes (Builder.propertyEntry e m.1) m.2)) hc
      rw [hrest, extend_extend]

/-- Entering a schema, one node after the other, gives the nodes that the schema has by itself. -/
theorem addSchema_eq (c : Construction) (e : Entry) (schema : Json) :
    c.addSchema e schema = (e.typeName, c.extend (c.builder.nodes e schema)) := by
  obtain ⟨b, hc⟩ : ∃ b, c.builder = b := ⟨_, rfl⟩
  rw [hc]
  induction e, schema using Builder.induction_of_shapes b generalizing c with
  | reference e schema n href =>
      rw [addSchema, hc, href, Builder.nodes_of_refOf? href, ← pushRef_eq]
  | list e schema items href hitems ih =>
      rw [addSchema, hc, href, Builder.nodes_of_itemSchema? href hitems]
      dsimp only
      -- The shape decides which branch `addSchema` takes, and the other branches contradict it.
      split
      · next x hx =>
          cases hitems.symm.trans hx
          exact ih c hc
      · next hnone => cases hitems.symm.trans hnone
  | closed e schema ps href hitems hclosed ih =>
      rw [addSchema, hc, href, Builder.nodes_of_closedProperties? href hitems hclosed]
      dsimp only
      split
      · next x hx => cases hitems.symm.trans hx
      · split
        · next qs hqs =>
            cases hclosed.symm.trans hqs
            have hps := addProperties_eq b e (Builder.requiredNames schema)
              (fun m hm c hc => ih m hm c hc) c hc
            rw [hps]
            dsimp only
            rw [pushObject_eq, extend_extend]
        · next hnone => cases hclosed.symm.trans hnone
  | other e schema href hitems hclosed =>
      rw [addSchema, hc, href, Builder.nodes_of_other href hitems hclosed]
      dsimp only
      split
      · next x hx => cases hitems.symm.trans hx
      · split
        · next qs hqs => cases hclosed.symm.trans hqs
        · rw [← pushRef_eq]

/-- A document is entered by putting its nodes behind the map. -/
theorem addDocument_eq (c : Construction) (examples : List Json) (document : Document) :
    c.addDocument examples document = c.extend (c.builder.documentNodes examples document) := by
  unfold addDocument Builder.documentNodes
  cases Name.split? document.typeName with
  | none => exact (extend_empty c).symm
  | some parts =>
      dsimp only
      rw [addSchema_eq]

/-- So are documents one after the other. -/
theorem foldl_addDocument (c : Construction) (documents : List Document) :
    documents.foldl (fun c document => c.addDocument [] document) c
      = c.extend (TypeMap.concat (documents.map (c.builder.documentNodes []))) := by
  induction documents generalizing c with
  | nil => exact (extend_empty c).symm
  | cons document documents ih =>
      rw [List.foldl_cons, addDocument_eq, ih, extend_builder, extend_extend, List.map_cons,
        TypeMap.concat_cons]

/-- A definition is entered by putting the nodes of all of its documents behind the map. -/
theorem addDefinition_eq (c : Construction) (d : Definition) (emitted : Emitted) :
    c.addDefinition d emitted = c.extend (c.builder.definitionNodes d emitted) := by
  unfold addDefinition
  rw [addDocument_eq, foldl_addDocument, extend_builder, extend_extend]
  rfl

/-- Making enums known changes the builder only, and later ones stand in front. -/
theorem withEnums_eq (c : Construction) (declared : List (Header × EnumBody)) :
    c.withEnums declared
      = ⟨⟨c.builder.domain, (declared.map fun p =>
          (p.1.typeName, EnumRoot.ofBody p.1.system p.2)).reverse ++ c.builder.enums⟩, c.map⟩ := by
  unfold withEnums
  induction declared generalizing c with
  | nil => rfl
  | cons p declared ih =>
      rw [List.foldl_cons, ih, List.map_cons, List.reverse_cons, List.append_assoc]
      rfl

/-- What a call can do to the map: it puts well-formed nodes behind those that are there. -/
theorem apply_map (c : Construction) (call : Call) :
    ∃ added : TypeMap, added.WellFormed ∧ (c.apply call).map = c.map ++ added := by
  cases call with
  | withEnums declared =>
      refine ⟨.empty, TypeMap.wellFormed_empty, ?_⟩
      rw [apply, withEnums_eq, TypeMap.append_empty]
  | addDefinition d emitted =>
      refine ⟨_, Builder.wellFormed_definitionNodes c.builder d emitted, ?_⟩
      rw [apply, addDefinition_eq]
      rfl
  | addSchema e schema =>
      refine ⟨_, Builder.wellFormed_nodes c.builder e schema, ?_⟩
      rw [apply, addSchema_eq]
      rfl

/-- No node is changed or moved by a call. -/
theorem isPrefix_apply (c : Construction) (call : Call) :
    c.map.refs <+: (c.apply call).map.refs ∧ c.map.objects <+: (c.apply call).map.objects := by
  obtain ⟨added, -, hadded⟩ := c.apply_map call
  rw [hadded]
  exact ⟨⟨added.refs, rfl⟩, ⟨added.objects, rfl⟩⟩

/-- Any number of calls leaves a map well formed. -/
theorem wellFormed_run (c : Construction) (h : c.map.WellFormed) (calls : List Call) :
    (c.run calls).map.WellFormed := by
  unfold run
  induction calls generalizing c with
  | nil => exact h
  | cons call calls ih =>
      rw [List.foldl_cons]
      obtain ⟨added, hwellFormed, hadded⟩ := c.apply_map call
      refine ih (c.apply call) ?_
      rw [hadded]
      exact h.append hwellFormed

/-- Entering a schema answers with the proposed name, and a node of that name is there. -/
theorem addSchema_name (c : Construction) (e : Entry) (schema : Json) :
    (c.addSchema e schema).1 = Name.qualify e.system e.name
    ∧ Name.qualify e.system e.name ∈ (c.addSchema e schema).2.map.typeNames := by
  rw [addSchema_eq]
  refine ⟨rfl, TypeMap.mem_typeNames_append.2 (.inr ?_)⟩
  exact Builder.typeName_mem_nodes c.builder e schema

/-- What holds after any calls, with anything that may stand in them, on a new map. The map is well
formed. One more call changes and moves no node; and if it enters a schema, it answers with the
proposed name, and a node of that name is there. -/
theorem run_new (domain : String) (calls : List Call) :
    let c := (new domain).run calls
    c.map.WellFormed
    ∧ (∀ call, c.map.refs <+: (c.apply call).map.refs
        ∧ c.map.objects <+: (c.apply call).map.objects)
    ∧ ∀ e schema, (c.addSchema e schema).1 = Name.qualify e.system e.name
        ∧ Name.qualify e.system e.name ∈ (c.addSchema e schema).2.map.typeNames := by
  intro c
  refine ⟨?_, ?_, ?_⟩
  · exact wellFormed_run (new domain) TypeMap.wellFormed_empty calls
  · exact fun call => c.isPrefix_apply call
  · exact fun e schema => c.addSchema_name e schema

/-! ## The type map of definitions -/

/-- The calls that enter definitions with their documents, when the enums among all definitions are
known. -/
def callsOf (ds : List Definition) (entered : List (Definition × Emitted)) : List Call :=
  .withEnums (ds.filterMap fun d =>
    match d.body with
    | .enum body => some (d.header, body)
    | _ => none)
  :: entered.map fun p => .addDefinition p.1 p.2

/-- What is made known of definitions are the enums among them. -/
theorem withEnums_new (domain : String) (ds : List Definition) :
    (new domain).withEnums (ds.filterMap fun d =>
      match d.body with
      | .enum body => some (d.header, body)
      | _ => none)
      = ⟨Builder.withEnums domain ds, .empty⟩ := by
  rw [withEnums_eq, List.map_filterMap]
  unfold Builder.withEnums new
  dsimp only
  rw [List.append_nil]
  congr 4
  funext d
  cases d.body <;> rfl

/-- Running the calls that enter definitions gives their nodes, behind each other. -/
theorem run_callsOf (domain : String) (ds : List Definition)
    (entered : List (Definition × Emitted)) :
    ((new domain).run (callsOf ds entered)).map
      = TypeMap.concat (entered.map fun p =>
          (Builder.withEnums domain ds).definitionNodes p.1 p.2) := by
  have hfold : ∀ c : Construction,
      (entered.map fun p => Call.addDefinition p.1 p.2).foldl apply c
        = c.extend (TypeMap.concat (entered.map fun p => c.builder.definitionNodes p.1 p.2)) := by
    intro c
    induction entered generalizing c with
    | nil => exact (extend_empty c).symm
    | cons p entered ih =>
        rw [List.map_cons, List.foldl_cons, apply, addDefinition_eq, ih, extend_builder,
          extend_extend, List.map_cons, TypeMap.concat_cons]
  unfold run callsOf
  rw [List.foldl_cons, apply, withEnums_new, hfold]
  rfl

/-- The definitions that have documents, each with its own. -/
def withDocuments (e : Emitter) (known : KnownTypes) (ds : List Definition) :
    List (Definition × Emitted) :=
  ds.filterMap fun d => (e.emit known d).toOption.map (d, ·)

/-- So does the loop over definitions that skips those which are not emitted. -/
theorem foldl_emit (b : Builder) (e : Emitter) (known : KnownTypes) (ds : List Definition)
    (m : TypeMap) :
    ds.foldl
      (fun m d =>
        match e.emit known d with
        | .ok emitted => m ++ b.definitionNodes d emitted
        | .error _ => m) m
      = m ++ TypeMap.concat ((withDocuments e known ds).map fun p =>
          b.definitionNodes p.1 p.2) := by
  unfold withDocuments
  induction ds generalizing m with
  | nil => exact (TypeMap.append_empty m).symm
  | cons d ds ih =>
      rw [List.foldl_cons, ih, List.filterMap_cons]
      cases e.emit known d with
      | ok emitted =>
          show m ++ _ ++ _ = m ++ TypeMap.concat (_ :: _)
          rw [TypeMap.concat_cons, TypeMap.append_assoc]
      | error vs => rfl

/-- The type map of definitions comes of such calls: the enums first, and then each definition that
has documents. -/
theorem ofDefinitions_eq_run (domain : String) (ds : List Definition) :
    TypeMap.ofDefinitions domain ds
      = ((new (Emitter.ofDomain domain).domain).run
          (callsOf ds (withDocuments (.ofDomain domain) (.ofDefinitions ds) ds))).map := by
  rw [run_callsOf]
  exact foldl_emit _ _ _ ds .empty

/-- The type map of definitions is well formed, whatever the definitions say. -/
theorem wellFormed_ofDefinitions (domain : String) (ds : List Definition) :
    (TypeMap.ofDefinitions domain ds).WellFormed := by
  rw [ofDefinitions_eq_run]
  exact wellFormed_run _ TypeMap.wellFormed_empty _

end Construction

end TypeCatalog
