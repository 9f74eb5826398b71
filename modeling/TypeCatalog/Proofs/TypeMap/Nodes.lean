import Mathlib.Data.List.Nodup
import TypeCatalog.Proofs.Name
import TypeCatalog.TypeMap.Build

/-!
# Nodes of schemas and their names

`Builder.induction_of_shapes` goes down a schema as the builder does, by the shapes that it looks
at, and there is one equation for the nodes of each shape. A schema has one node of its own
(`Builder.ownNode`), under the name that it is entered with; the others are those of the values
inside.

The nodes that a document gets into a type map carry the name of the document, or that name with
an underscore and more behind it. No type has a name with an underscore, so the nodes of two
documents never share a name. `agree_concat_of_isUnder` draws the conclusion: in a map put together
of the nodes of many documents, a name leads to the nodes of the one document that it is made of.

`TypeMap.concat` puts maps behind each other, and `TypeMap.Agree` says that two maps answer alike
for a name. The shapes are those of `Builder.refOf?`, `itemSchema?` and `closedProperties?`, in the
order in which `Construction.addSchema` asks for them, and `Builder.IsUnder` is the name of an entry
with nothing or an underscore behind.
-/

set_option autoImplicit false

namespace TypeCatalog

namespace Node

def typeName : Node → String
  | .ref n => n.typeName
  | .object n => n.typeName

end Node

namespace TypeMap

/-- The references of two maps are joined. -/
@[simp]
theorem refs_append (m n : TypeMap) : (m ++ n).refs = m.refs ++ n.refs := rfl

/-- So are their objects. -/
@[simp]
theorem objects_append (m n : TypeMap) : (m ++ n).objects = m.objects ++ n.objects := rfl

/-- The names are those of both, in another order. -/
theorem typeNames_append_perm (m n : TypeMap) :
    (m ++ n).typeNames.Perm (m.typeNames ++ n.typeNames) := by
  unfold typeNames
  rw [refs_append, objects_append, List.map_append, List.map_append, List.append_assoc,
    List.append_assoc]
  refine .append_left _ ?_
  rw [← List.append_assoc, ← List.append_assoc]
  exact List.perm_append_comm.append_right _

/-- A name of both maps together is one of the first or of the second. -/
theorem mem_typeNames_append {m n : TypeMap} {name : String} :
    name ∈ (m ++ n).typeNames ↔ name ∈ m.typeNames ∨ name ∈ n.typeNames :=
  (typeNames_append_perm m n).mem_iff.trans List.mem_append

/-- A name that no node has leads nowhere. -/
theorem find?_eq_none_of_notMem {m : TypeMap} {name : String} (h : name ∉ m.typeNames) :
    m.ref? name = none ∧ m.object? name = none := by
  unfold typeNames at h
  rw [List.mem_append, not_or] at h
  constructor
  · refine List.find?_eq_none.2 fun n hn => ?_
    simp only [decide_eq_true_eq]
    exact fun heq => h.1 (List.mem_map.2 ⟨n, hn, heq⟩)
  · refine List.find?_eq_none.2 fun n hn => ?_
    simp only [decide_eq_true_eq]
    exact fun heq => h.2 (List.mem_map.2 ⟨n, hn, heq⟩)

/-- A name that a node has leads to a node. -/
theorem exists_node?_of_mem {m : TypeMap} {name : String} (h : name ∈ m.typeNames) :
    ∃ n, m.node? name = some n := by
  unfold node?
  cases hr : m.ref? name with
  | some n => exact ⟨.ref n, rfl⟩
  | none =>
      cases ho : m.object? name with
      | some n => exact ⟨.object n, rfl⟩
      | none =>
          rcases List.mem_append.1 h with h | h
          · obtain ⟨n, hn, hname⟩ := List.mem_map.1 h
            exact absurd (decide_eq_true hname) (List.find?_eq_none.1 hr n hn)
          · obtain ⟨n, hn, hname⟩ := List.mem_map.1 h
            exact absurd (decide_eq_true hname) (List.find?_eq_none.1 ho n hn)

/-- The nodes of maps put one behind the other. -/
def concat (maps : List TypeMap) : TypeMap := maps.foldl (· ++ ·) empty

/-- Nothing behind a map leaves it. -/
theorem append_empty (m : TypeMap) : m ++ empty = m := by
  show (⟨m.objects ++ [], m.refs ++ []⟩ : TypeMap) = m
  rw [List.append_nil, List.append_nil]

/-- Maps are joined in any grouping. -/
theorem append_assoc (l m n : TypeMap) : l ++ m ++ n = l ++ (m ++ n) := by
  show (⟨l.objects ++ m.objects ++ n.objects, l.refs ++ m.refs ++ n.refs⟩ : TypeMap) = _
  rw [List.append_assoc, List.append_assoc]
  rfl

/-- Joining one map after the other gives all of them behind the first. -/
theorem foldl_append (m : TypeMap) (maps : List TypeMap) :
    maps.foldl (· ++ ·) m = m ++ concat maps := by
  unfold concat
  induction maps generalizing m with
  | nil => exact (append_empty m).symm
  | cons n maps ih =>
      rw [List.foldl_cons, ih, List.foldl_cons, ih (empty ++ n), append_assoc]
      rfl

/-- The first map stands in front of the others. -/
theorem concat_cons (m : TypeMap) (maps : List TypeMap) :
    concat (m :: maps) = m ++ concat maps := by
  rw [concat, List.foldl_cons, foldl_append]
  rfl

/-- Two lists of maps are joined as the maps are. -/
theorem concat_append (ms ns : List TypeMap) : concat (ms ++ ns) = concat ms ++ concat ns := by
  rw [concat, List.foldl_append, foldl_append]
  rfl

/-- The names of many maps are the names of each. -/
theorem typeNames_concat_perm (maps : List TypeMap) :
    (concat maps).typeNames.Perm (maps.flatMap typeNames) := by
  induction maps with
  | nil => exact .refl _
  | cons m maps ih =>
      rw [concat_cons, List.flatMap_cons]
      exact (typeNames_append_perm m _).trans (ih.append_left _)

/-- So a name is among them when it is one of some map. -/
theorem mem_typeNames_concat {maps : List TypeMap} {name : String} :
    name ∈ (concat maps).typeNames ↔ ∃ m ∈ maps, name ∈ m.typeNames :=
  (typeNames_concat_perm maps).mem_iff.trans List.mem_flatMap

/-- Whether a node is in a map. -/
def Has (m : TypeMap) : Node → Prop
  | .ref n => n ∈ m.refs
  | .object n => n ∈ m.objects

/-- The name of a node is among the names. -/
theorem Has.typeName_mem {m : TypeMap} {n : Node} (h : m.Has n) : n.typeName ∈ m.typeNames := by
  unfold typeNames
  cases n with
  | ref n => exact List.mem_append.2 (.inl (List.mem_map_of_mem h))
  | object n => exact List.mem_append.2 (.inr (List.mem_map_of_mem h))

/-- A node of two maps is one of the first or of the second. -/
theorem has_append {l m : TypeMap} {n : Node} : (l ++ m).Has n ↔ l.Has n ∨ m.Has n := by
  cases n <;> exact List.mem_append

/-- A node of many maps is one of some map. -/
theorem has_concat {maps : List TypeMap} {n : Node} :
    (concat maps).Has n ↔ ∃ m ∈ maps, m.Has n := by
  induction maps with
  | nil => cases n <;> exact iff_of_false List.not_mem_nil (by simp)
  | cons m maps ih =>
      rw [concat_cons, has_append, ih]
      simp only [List.mem_cons, exists_eq_or_imp]

/-- Two maps give a name the same nodes of either sort. -/
def Agree (m n : TypeMap) (name : String) : Prop :=
  m.ref? name = n.ref? name ∧ m.object? name = n.object? name

/-- Maps that agree with a third one at a name agree with each other. -/
theorem Agree.trans {l m n : TypeMap} {name : String} (h : Agree l m name) (h' : Agree m n name) :
    Agree l n name := ⟨h.1.trans h'.1, h.2.trans h'.2⟩

/-- Maps that agree at a name have the same node there. -/
theorem Agree.node? {m n : TypeMap} {name : String} (h : Agree m n name) :
    m.node? name = n.node? name := by
  unfold TypeMap.node?
  rw [h.1, h.2]

/-- A map without the name can be dropped in front. -/
theorem agree_append_of_notMem_left {m n : TypeMap} {name : String} (h : name ∉ m.typeNames) :
    Agree (m ++ n) n name := by
  obtain ⟨hr, ho⟩ := find?_eq_none_of_notMem h
  unfold ref? at hr
  unfold object? at ho
  unfold Agree ref? object?
  rw [refs_append, objects_append, List.find?_append, List.find?_append, hr, ho]
  exact ⟨rfl, rfl⟩

/-- And it can be dropped behind. -/
theorem agree_append_of_notMem_right {m n : TypeMap} {name : String} (h : name ∉ n.typeNames) :
    Agree (m ++ n) m name := by
  obtain ⟨hr, ho⟩ := find?_eq_none_of_notMem h
  unfold ref? at hr
  unfold object? at ho
  unfold Agree ref? object?
  rw [refs_append, objects_append, List.find?_append, List.find?_append, hr, ho, Option.or_none,
    Option.or_none]
  exact ⟨rfl, rfl⟩

/-- Where only one of some maps has nodes of a name, the name leads to the nodes of that map. -/
theorem agree_concat {ms ns : List TypeMap} {m : TypeMap} {name : String}
    (hms : ∀ n ∈ ms, name ∉ n.typeNames) (hns : ∀ n ∈ ns, name ∉ n.typeNames) :
    Agree (concat (ms ++ m :: ns)) m name := by
  rw [concat_append, concat_cons]
  refine (agree_append_of_notMem_left fun h => ?_).trans
    (agree_append_of_notMem_right fun h => ?_)
  · obtain ⟨n, hn, hname⟩ := mem_typeNames_concat.1 h
    exact hms n hn hname
  · obtain ⟨n, hn, hname⟩ := mem_typeNames_concat.1 h
    exact hns n hn hname

end TypeMap

namespace Builder

/-! ## Nodes by shape -/

section

variable {b : Builder} {e : Entry} {schema : Json}

/-- A schema that is entered as a reference has that node only. -/
theorem nodes_of_refOf? {n : RefNode} (h : b.refOf? e schema = some n) :
    b.nodes e schema = .ofRef n := by
  rw [nodes]
  split
  · next m hm =>
      rw [h] at hm
      cases hm
      rfl
  · next hnone =>
      rw [h] at hnone
      cases hnone

/-- A list of one type has the nodes of its items. -/
theorem nodes_of_itemSchema? {items : Json} (other : b.refOf? e schema = none)
    (list : itemSchema? schema = some items) :
    b.nodes e schema = b.nodes (itemEntry e) items := by
  rw [nodes]
  split
  · next n hn =>
      rw [other] at hn
      cases hn
  · split
    · next x hx =>
        rw [list] at hx
        cases hx
        rfl
    · next hnone =>
        rw [list] at hnone
        cases hnone

/-- A closed object has the nodes of its properties and one of its own. -/
theorem nodes_of_closedProperties? {ps : List (String × Json)} (other : b.refOf? e schema = none)
    (noList : itemSchema? schema = none) (closed : closedProperties? schema = some ps) :
    b.nodes e schema = (b.propertyNodes e (requiredNames schema) ps).1
      ++ TypeMap.ofObject ⟨e.system, e.name, description schema, e.depth, e.isRoot,
        (b.propertyNodes e (requiredNames schema) ps).2⟩ := by
  rw [nodes]
  split
  · next n hn =>
      rw [other] at hn
      cases hn
  · split
    · next x hx =>
        rw [noList] at hx
        cases hx
    · split
      · next qs hqs =>
          rw [closed] at hqs
          cases hqs
          rfl
      · next hnone =>
          rw [closed] at hnone
          cases hnone

/-- The node of a closed object. -/
def objectNode (e : Entry) (schema : Json) (ps : List (String × Json)) : ObjectNode :=
  ⟨e.system, e.name, description schema, e.depth, e.isRoot,
    ps.map fun m => ⟨m.1, description m.2, (propertyEntry e m.1).typeName,
      (requiredNames schema).contains m.1⟩⟩

/-- The nodes of the values of properties, one value after the other. -/
theorem propertyNodes_eq (b : Builder) (e : Entry) (required : List String)
    (ps : List (String × Json)) :
    b.propertyNodes e required ps
      = (TypeMap.concat (ps.map fun m => b.nodes (propertyEntry e m.1) m.2),
        ps.map fun m => ⟨m.1, description m.2, (propertyEntry e m.1).typeName,
          required.contains m.1⟩) := by
  induction ps with
  | nil =>
      rw [propertyNodes]
      rfl
  | cons m ps ih =>
      rw [propertyNodes, ih, List.map_cons, List.map_cons, TypeMap.concat_cons]

/-- The nodes of the values of properties stand before that of the object. -/
theorem nodes_eq_of_closedProperties? {ps : List (String × Json)} (href : b.refOf? e schema = none)
    (hitems : itemSchema? schema = none) (hclosed : closedProperties? schema = some ps) :
    b.nodes e schema
      = TypeMap.concat (ps.map fun m => b.nodes (propertyEntry e m.1) m.2)
        ++ TypeMap.ofObject (objectNode e schema ps) := by
  rw [nodes_of_closedProperties? href hitems hclosed, propertyNodes_eq]
  rfl

/-- Anything else has one node, of an unknown object. -/
theorem nodes_of_other (href : b.refOf? e schema = none) (hitems : itemSchema? schema = none)
    (hclosed : closedProperties? schema = none) :
    b.nodes e schema = .ofRef (e.ref "object" true) := by
  rw [nodes]
  split
  · next n hn => cases href.symm.trans hn
  · split
    · next items h => cases hitems.symm.trans h
    · split
      · next ps h => cases hclosed.symm.trans h
      · rfl

end

/-- What holds of every schema that is entered is shown by the shapes that the builder looks at, in
their order: a reference, a list of one type, a closed object, and anything else. -/
@[elab_as_elim]
theorem induction_of_shapes (b : Builder) {motive : Entry → Json → Prop}
    (reference : ∀ e schema n, b.refOf? e schema = some n → motive e schema)
    (list : ∀ e schema items, b.refOf? e schema = none → itemSchema? schema = some items →
      motive (itemEntry e) items → motive e schema)
    (closed : ∀ e schema ps, b.refOf? e schema = none → itemSchema? schema = none →
      closedProperties? schema = some ps →
      (∀ m ∈ ps, motive (propertyEntry e m.1) m.2) → motive e schema)
    (other : ∀ e schema, b.refOf? e schema = none → itemSchema? schema = none →
      closedProperties? schema = none → motive e schema)
    (e : Entry) (schema : Json) : motive e schema := by
  -- The three questions are asked in the order of the builder, and the first one that is answered
  -- gives the shape.
  cases href : b.refOf? e schema with
  | some n => exact reference e schema n href
  | none =>
      cases hitems : itemSchema? schema with
      | some items =>
          have hlt := sizeOf_lt_of_itemSchema? hitems
          exact list e schema items href hitems
            (induction_of_shapes b reference list closed other (itemEntry e) items)
      | none =>
          cases hclosed : closedProperties? schema with
          | some ps =>
              refine closed e schema ps href hitems hclosed fun m hm => ?_
              have hlt := sizeOf_lt_of_closedProperties? hclosed
              have hmem := List.sizeOf_lt_of_mem hm
              have hvalue : sizeOf m.2 < sizeOf m := by
                cases m
                simp only [Prod.mk.sizeOf_spec]
                omega
              exact induction_of_shapes b reference list closed other (propertyEntry e m.1) m.2
          | none => exact other e schema href hitems hclosed
termination_by sizeOf schema


/-- A reference that a schema is entered as has the name of its entry. -/
theorem refOf?_typeName {b : Builder} {e : Entry} {schema : Json} {n : RefNode}
    (h : b.refOf? e schema = some n) : n.typeName = e.typeName := by
  unfold refOf? at h
  split at h
  · cases h
    rfl
  · split at h
    · cases h
      rfl
    · split at h
      · cases h
        rfl
      · obtain ⟨t, -, h⟩ := Option.bind_eq_some_iff.1 h
        split at h
        · cases h
          rfl
        · cases h

/-! ## The node of a schema itself -/

/-- The node that a schema gets under its proposed name. The other nodes are those of the values
inside. -/
def ownNode (b : Builder) (e : Entry) (schema : Json) : Node :=
  match b.refOf? e schema with
  | some n => .ref n
  | none =>
    match _h : itemSchema? schema with
    | some items => ownNode b (itemEntry e) items
    | none =>
      match closedProperties? schema with
      | some ps => .object (objectNode e schema ps)
      | none => .ref (e.ref "object" true)
termination_by sizeOf schema
decreasing_by exact sizeOf_lt_of_itemSchema? ‹_›

section

variable {b : Builder} {e : Entry} {schema : Json}

/-- The own node of such a schema is that reference. -/
theorem ownNode_of_refOf? {n : RefNode} (href : b.refOf? e schema = some n) :
    b.ownNode e schema = .ref n := by
  rw [ownNode, href]

variable (href : b.refOf? e schema = none)

include href

/-- The own node of a list is that of its items. -/
theorem ownNode_of_itemSchema? {items : Json} (hitems : itemSchema? schema = some items) :
    b.ownNode e schema = b.ownNode (itemEntry e) items := by
  rw [ownNode, href]
  dsimp only
  split
  · next x hx => rw [Option.some.inj (hx.symm.trans hitems)]
  · next hnone => cases hnone.symm.trans hitems

variable (hitems : itemSchema? schema = none)

include hitems

/-- The own node of a closed object is an object. -/
theorem ownNode_of_closedProperties? {ps : List (String × Json)}
    (hclosed : closedProperties? schema = some ps) :
    b.ownNode e schema = .object (objectNode e schema ps) := by
  rw [ownNode, href]
  dsimp only
  split
  · next x hx => cases hx.symm.trans hitems
  · rw [hclosed]

/-- The own node of any other schema is a reference to `object` in general. -/
theorem ownNode_of_other (hclosed : closedProperties? schema = none) :
    b.ownNode e schema = .ref (e.ref "object" true) := by
  rw [ownNode, href]
  dsimp only
  split
  · next x hx => cases hx.symm.trans hitems
  · rw [hclosed]

end

/-- The node of a schema is among its nodes, and has the proposed name. -/
theorem has_ownNode (b : Builder) (e : Entry) (schema : Json) :
    (b.nodes e schema).Has (b.ownNode e schema) ∧ (b.ownNode e schema).typeName = e.typeName := by
  induction e, schema using induction_of_shapes b with
  | reference e schema n href =>
      rw [nodes_of_refOf? href, ownNode_of_refOf? href]
      exact ⟨List.mem_singleton_self n, refOf?_typeName href⟩
  | list e schema items href hitems ih =>
      rw [nodes_of_itemSchema? href hitems, ownNode_of_itemSchema? href hitems]
      exact ih
  | closed e schema ps href hitems hclosed _ =>
      rw [nodes_eq_of_closedProperties? href hitems hclosed,
        ownNode_of_closedProperties? href hitems hclosed]
      exact ⟨TypeMap.has_append.2 (.inr (List.mem_singleton_self _)), rfl⟩
  | other e schema href hitems hclosed =>
      rw [nodes_of_other href hitems hclosed, ownNode_of_other href hitems hclosed]
      exact ⟨List.mem_singleton_self _, rfl⟩

/-! ## Names by shape -/

/-- The names that nodes under an entry may have: the name of the entry, or one with an underscore
and more behind it. -/
def IsUnder (e : Entry) (name : String) : Prop :=
  name = e.typeName ∨ ∃ rest, name = Name.qualify e.system (e.name ++ "_" ++ rest)

/-- The items of a list are entered under the same name, so their names are under it, too. -/
theorem isUnder_itemEntry {e : Entry} {name : String} (h : IsUnder (itemEntry e) name) :
    IsUnder e name := h

/-- Names under that of a property are under that of the object. -/
theorem isUnder_propertyEntry {e : Entry} {property name : String}
    (h : IsUnder (propertyEntry e property) name) : IsUnder e name := by
  rcases h with rfl | ⟨rest, rfl⟩
  · exact .inr ⟨property, rfl⟩
  · refine .inr ⟨property ++ "_" ++ rest, ?_⟩
    show Name.qualify e.system (e.name ++ "_" ++ property ++ "_" ++ rest) = _
    simp only [String.append_assoc]

/-- The names of the nodes of a schema. -/
theorem isUnder_of_mem_nodes (b : Builder) (e : Entry) (schema : Json) :
    ∀ name ∈ (b.nodes e schema).typeNames, IsUnder e name := by
  induction e, schema using induction_of_shapes b with
  | reference e schema n href =>
      rw [nodes_of_refOf? href]
      intro name hname
      rw [List.mem_singleton.1 hname, refOf?_typeName href]
      exact .inl rfl
  | list e schema items href hitems ih =>
      rw [nodes_of_itemSchema? href hitems]
      exact fun name hname => isUnder_itemEntry (ih name hname)
  | closed e schema ps href hitems hclosed ih =>
      rw [nodes_eq_of_closedProperties? href hitems hclosed]
      intro name hname
      rcases TypeMap.mem_typeNames_append.1 hname with hname | hname
      · obtain ⟨nodes, hnodes, hname⟩ := TypeMap.mem_typeNames_concat.1 hname
        obtain ⟨m, hm, rfl⟩ := List.mem_map.1 hnodes
        exact isUnder_propertyEntry (ih m hm name hname)
      · rw [List.mem_singleton.1 hname]
        exact .inl rfl
  | other e schema href hitems hclosed =>
      rw [nodes_of_other href hitems hclosed]
      intro name hname
      rw [List.mem_singleton.1 hname]
      exact .inl rfl

/-- A schema gets a node under the name of its entry. -/
theorem typeName_mem_nodes (b : Builder) (e : Entry) (schema : Json) :
    e.typeName ∈ (b.nodes e schema).typeNames := by
  obtain ⟨hown, hname⟩ := has_ownNode b e schema
  exact hname ▸ hown.typeName_mem

/-! ## Nodes of documents -/

variable {b : Builder} {examples : List Json} {document : Document} {system name : String}

/-- A document is entered at its root, under the name of its type. -/
theorem documentNodes_eq (hname : Name.isIdentifier name = true)
    (h : document.typeName = Name.qualify system name) :
    b.documentNodes examples document
      = b.nodes ⟨system, name, true, examples, 0⟩ document.schema := by
  unfold documentNodes
  rw [h, Name.split?_qualify hname]

/-- The name of a document is among the names of its nodes. -/
theorem typeName_mem_documentNodes (hname : Name.isIdentifier name = true)
    (h : document.typeName = Name.qualify system name) :
    document.typeName ∈ (b.documentNodes examples document).typeNames := by
  rw [documentNodes_eq hname h, h]
  exact typeName_mem_nodes b _ _

/-- A name says under which entry it stands: the system ends at the first slash, and the name of the
entry at the first underscore behind it. -/
theorem isUnder_unique {e e' : Entry} {node : String} (hs : Name.isIdentifier e.system = true)
    (hn : Name.isIdentifier e.name = true) (hs' : Name.isIdentifier e'.system = true)
    (hn' : Name.isIdentifier e'.name = true) (h : IsUnder e node) (h' : IsUnder e' node) :
    e.typeName = e'.typeName := by
  -- One more underscore at the end makes sure that there is a first one.
  have hcut {f : Entry} (hf : IsUnder f node) : ∃ rest, node.toList ++ ['_']
      = f.system.toList ++ Name.separator :: (f.name.toList ++ '_' :: rest) := by
    rcases hf with rfl | ⟨rest, rfl⟩
    · refine ⟨[], ?_⟩
      rw [Entry.typeName, Name.toList_qualify]
      simp
    · refine ⟨rest.toList ++ ['_'], ?_⟩
      rw [Name.toList_qualify, String.toList_append, String.toList_append]
      simp
  obtain ⟨rest, hrest⟩ := hcut h
  obtain ⟨rest', hrest'⟩ := hcut h'
  obtain ⟨hsystem, hbehind⟩ := Name.append_cons_inj (Name.separator_notMem hs)
    (Name.separator_notMem hs') (hrest.symm.trans hrest')
  obtain ⟨hname, -⟩ := Name.append_cons_inj
    (Name.notMem_of_all (Name.all_isAlphanumeric hn) (by decide))
    (Name.notMem_of_all (Name.all_isAlphanumeric hn') (by decide)) hbehind
  rw [Entry.typeName, Entry.typeName, String.toList_inj.1 hsystem, String.toList_inj.1 hname]

/-- In the nodes of many documents with different names, a name leads to the nodes of the document
under whose entry it stands. -/
theorem agree_concat_of_isUnder {entries : List (List Json × Document)}
    (hnames : ∀ p ∈ entries, ∃ system name, p.2.typeName = Name.qualify system name
      ∧ Name.isIdentifier system = true ∧ Name.isIdentifier name = true)
    (hnodup : (entries.map (·.2.typeName)).Nodup) {entry : List Json × Document}
    (hentry : entry ∈ entries) {e : Entry} (he : entry.2.typeName = e.typeName)
    (hs : Name.isIdentifier e.system = true) (hn : Name.isIdentifier e.name = true) {node : String}
    (hnode : IsUnder e node) :
    TypeMap.Agree (TypeMap.concat (entries.map fun p => b.documentNodes p.1 p.2))
      (b.documentNodes entry.1 entry.2) node := by
  obtain ⟨front, rest, rfl⟩ := List.append_of_mem hentry
  rw [List.map_append, List.map_cons, List.nodup_middle, List.nodup_cons] at hnodup
  -- No other document has a node of this name, since it would have to stand under two names of
  -- types.
  have hother : ∀ p ∈ front ++ rest, node ∉ (b.documentNodes p.1 p.2).typeNames := by
    intro p hp hmem
    have hpmem : p ∈ front ++ entry :: rest := by
      rw [List.mem_append, List.mem_cons]
      rcases List.mem_append.1 hp with hp | hp
      · exact .inl hp
      · exact .inr (.inr hp)
    obtain ⟨t, n, hpname, ht, hidentifier⟩ := hnames p hpmem
    rw [documentNodes_eq hidentifier hpname] at hmem
    have heq := isUnder_unique ht hidentifier hs hn (isUnder_of_mem_nodes b _ _ node hmem) hnode
    refine hnodup.1 ?_
    rw [he, ← heq, ← List.map_append]
    exact List.mem_map.2 ⟨p, hp, hpname⟩
  rw [List.map_append, List.map_cons]
  refine TypeMap.agree_concat (fun m hm => ?_) (fun m hm => ?_)
  · obtain ⟨p, hp, rfl⟩ := List.mem_map.1 hm
    exact hother p (List.mem_append.2 (.inl hp))
  · obtain ⟨p, hp, rfl⟩ := List.mem_map.1 hm
    exact hother p (List.mem_append.2 (.inr hp))

/-- In the nodes of many documents with different names, the name of a document leads to a node of
that document. -/
theorem node?_concat_documentNodes {entries : List (List Json × Document)}
    (hnames : ∀ p ∈ entries, ∃ system name, p.2.typeName = Name.qualify system name
      ∧ Name.isIdentifier system = true ∧ Name.isIdentifier name = true)
    (hnodup : (entries.map (·.2.typeName)).Nodup) {entry : List Json × Document}
    (hentry : entry ∈ entries) :
    (TypeMap.concat (entries.map fun p => b.documentNodes p.1 p.2)).node? entry.2.typeName
      = (b.documentNodes entry.1 entry.2).node? entry.2.typeName := by
  obtain ⟨system, name, hname, hs, hn⟩ := hnames entry hentry
  have hagree := agree_concat_of_isUnder (b := b) hnames hnodup hentry
    (e := ⟨system, name, true, entry.1, 0⟩) hname hs hn (.inl hname)
  exact hagree.node?

end Builder

end TypeCatalog
