import TypeCatalog.Proofs.Definition.Reading
import TypeCatalog.Proofs.TypeMap.Reach

/-!
# Chains of property names

The values inside a closed object get nodes of their own, and these are named by the way that leads
to them: the name of the root, and then an underscore and a name for each property on the way. This
file asks when such a name tells the way again.

`Builder.chains` lists the ways, each as the chain of its property names, and `typeNames_perm` says
that the nodes of a schema are named by them. Different nodes have different chains
(`chains_nodup`), but different chains may spell the same name, since an underscore may also stand
inside the name of a property. `typeNames_nodup_iff` puts it together, and `node?_property` draws
the conclusion: where no two chains spell the same, each property of each closed object leads to the
very node that was made of its own value. `node?_property_foldedFragment` is a schema where it leads
to another.
-/

set_option autoImplicit false

namespace TypeCatalog

namespace TypeMap

/-- Where nodes have different names, a node is found by its name. -/
theorem node?_of_nodup {m : TypeMap} (hnodup : m.typeNames.Nodup) {n : Node} (hn : m.Has n) :
    m.node? n.typeName = some n := by
  unfold typeNames at hnodup
  rw [List.nodup_append] at hnodup
  obtain ⟨hrefs, hobjects, hdisjoint⟩ := hnodup
  unfold node?
  cases n with
  | ref n =>
      have hfind : m.ref? (Node.ref n).typeName = some n :=
        Table.find?_of_mem RefNode.typeName hrefs hn
      rw [hfind]
  | object n =>
      -- References are looked for first, so none of them may have the name of the object.
      have hnone : m.ref? (Node.object n).typeName = none := by
        refine List.find?_eq_none.2 fun r hr heq => ?_
        exact hdisjoint _ (List.mem_map_of_mem hr) _ (List.mem_map_of_mem hn)
          (of_decide_eq_true heq)
      have hfind : m.object? (Node.object n).typeName = some n :=
        Table.find?_of_mem ObjectNode.typeName hobjects hn
      rw [hnone, hfind]
      rfl

end TypeMap

namespace Builder

/-! ## The chains of a schema -/

/-- The chains of property names that lead to the nodes of a schema, in the order in which the nodes
are made: those into the values of a closed object before the one to the object itself. -/
def chains (b : Builder) (e : Entry) (schema : Json) : List (List String) :=
  match b.refOf? e schema with
  | some _ => [[]]
  | none =>
    match _h : itemSchema? schema with
    | some items => chains b (itemEntry e) items
    | none =>
      match _h : closedProperties? schema with
      | some ps =>
        (ps.attach.flatMap fun m =>
          (chains b (propertyEntry e m.1.1) m.1.2).map (m.1.1 :: ·)) ++ [[]]
      | none => [[]]
termination_by sizeOf schema
decreasing_by
  · exact sizeOf_lt_of_itemSchema? ‹_›
  · have hlt := sizeOf_lt_of_closedProperties? ‹_›
    have hmem := List.sizeOf_lt_of_mem m.2
    have hvalue : sizeOf m.1.2 < sizeOf m.1 := by
      cases m.1
      simp
    omega

section

variable {b : Builder} {e : Entry} {schema : Json}

/-- A schema that is a reference has no ways into it, and one node. -/
theorem chains_of_refOf? {n : RefNode} (href : b.refOf? e schema = some n) :
    b.chains e schema = [[]] := by
  rw [chains, href]

variable (href : b.refOf? e schema = none)

include href

/-- The ways into a list are those into its items. -/
theorem chains_of_itemSchema? {items : Json} (hitems : itemSchema? schema = some items) :
    b.chains e schema = b.chains (itemEntry e) items := by
  rw [chains, href]
  dsimp only
  split
  · next x hx => rw [Option.some.inj (hx.symm.trans hitems)]
  · next hnone => cases hnone.symm.trans hitems

variable (hitems : itemSchema? schema = none)

include hitems

/-- The ways into a closed object go through one of its properties, or end at the object. -/
theorem chains_of_closedProperties? {ps : List (String × Json)}
    (hclosed : closedProperties? schema = some ps) :
    b.chains e schema
      = (ps.flatMap fun m => (b.chains (propertyEntry e m.1) m.2).map (m.1 :: ·)) ++ [[]] := by
  rw [chains, href]
  dsimp only
  split
  · next x hx => cases hx.symm.trans hitems
  · split
    · next qs hqs =>
        cases hqs.symm.trans hclosed
        rw [List.flatMap_subtype (g := fun m => (b.chains (propertyEntry e m.1) m.2).map (m.1 :: ·))
          (by simp), List.unattach_attach]
    · next hnone => cases hnone.symm.trans hclosed

/-- Any other schema has one node, too. -/
theorem chains_of_other (hclosed : closedProperties? schema = none) :
    b.chains e schema = [[]] := by
  rw [chains, href]
  dsimp only
  split
  · next x hx => cases hx.symm.trans hitems
  · split
    · next ps hps => cases hps.symm.trans hclosed
    · rfl

end

/-! ## Names by chains -/

/-- What a chain adds to a name. -/
def spell : List String → String
  | [] => ""
  | property :: chain => "_" ++ property ++ spell chain

/-- The name of the node that a chain leads to. -/
def chainName (e : Entry) (chain : List String) : String :=
  Name.qualify e.system (e.name ++ spell chain)

/-- The chain without names spells the name of the entry. -/
theorem chainName_nil (e : Entry) : chainName e [] = e.typeName := by
  unfold chainName spell
  rw [String.append_empty]
  rfl

/-- The name of a property may be part of the entry or of the chain. -/
theorem chainName_propertyEntry (e : Entry) (property : String) (chain : List String) :
    chainName (propertyEntry e property) chain = chainName e (property :: chain) := by
  show Name.qualify e.system (e.name ++ "_" ++ property ++ spell chain)
    = Name.qualify e.system (e.name ++ ("_" ++ property ++ spell chain))
  simp only [String.append_assoc]

/-- Two chains have the same name exactly when they spell the same. -/
theorem chainName_eq_iff {e : Entry} {chain other : List String} :
    chainName e chain = chainName e other ↔ spell chain = spell other := by
  refine ⟨fun h => ?_, fun h => by unfold chainName; rw [h]⟩
  have hlist := congrArg String.toList h
  unfold chainName at hlist
  rw [Name.toList_qualify, Name.toList_qualify, String.toList_append, String.toList_append] at hlist
  exact String.toList_inj.1 (by simpa using hlist)

/-- The nodes of a schema are named by their chains. -/
theorem typeNames_perm (b : Builder) (e : Entry) (schema : Json) :
    (b.nodes e schema).typeNames.Perm ((b.chains e schema).map (chainName e)) := by
  induction e, schema using induction_of_shapes b with
  | reference e schema n href =>
      rw [nodes_of_refOf? href, chains_of_refOf? href]
      show [n.typeName].Perm [chainName e []]
      rw [refOf?_typeName href, chainName_nil]
  | list e schema items href hitems ih =>
      rw [nodes_of_itemSchema? href hitems, chains_of_itemSchema? href hitems]
      exact ih
  | closed e schema ps href hitems hclosed ih =>
      rw [nodes_eq_of_closedProperties? href hitems hclosed,
        chains_of_closedProperties? href hitems hclosed, List.map_append, List.map_flatMap]
      refine (TypeMap.typeNames_append_perm _ _).trans (.append ?_ ?_)
      · refine (TypeMap.typeNames_concat_perm _).trans ?_
        rw [List.flatMap_map]
        refine List.Perm.flatMap_left ps fun m hm => ?_
        -- The name of the property goes from the entry to the chain.
        refine (ih m hm).trans (.of_eq ?_)
        rw [List.map_map]
        exact List.map_congr_left fun chain _ => chainName_propertyEntry e m.1 chain
      · show [e.typeName].Perm [chainName e []]
        rw [chainName_nil]
  | other e schema href hitems hclosed =>
      rw [nodes_of_other href hitems hclosed, chains_of_other href hitems hclosed]
      show [e.typeName].Perm [chainName e []]
      rw [chainName_nil]

/-! ## Chains tell nodes apart -/

/-- The names inside the items of a list are distinct, too. -/
theorem distinct_of_itemSchema? {schema items : Json} (hschema : schema.Distinct)
    (hitems : itemSchema? schema = some items) : items.Distinct := by
  unfold itemSchema? at hitems
  split at hitems
  · cases schema with
    | object ms => exact Json.distinct_of_lookup hschema (Option.filter_eq_some_iff.1 hitems).1
    | _ => cases hitems
  · cases hitems

/-- The properties of a closed object have different names, and the names inside their values are
distinct, too. -/
theorem distinct_of_closedProperties? {schema : Json} {ps : List (String × Json)}
    (hschema : schema.Distinct) (hclosed : closedProperties? schema = some ps) :
    (ps.map Prod.fst).Nodup ∧ ∀ m ∈ ps, m.2.Distinct := by
  unfold closedProperties? at hclosed
  split at hclosed
  · obtain ⟨v, hv, hps⟩ := Option.bind_eq_some_iff.1 hclosed
    cases schema with
    | object ms =>
        have hdistinct := Json.distinct_of_lookup hschema hv
        cases v with
        | object members =>
            cases hps
            exact ⟨hdistinct.1, fun m hm => Json.distinct_of_mem_members hdistinct.2 hm⟩
        | _ => cases hps
    | _ => cases hv
  · cases hclosed

/-- No two nodes have the same chain. -/
theorem chains_nodup (b : Builder) (e : Entry) {schema : Json} (hschema : schema.Distinct) :
    (b.chains e schema).Nodup := by
  induction e, schema using induction_of_shapes b with
  | reference e schema n href =>
      rw [chains_of_refOf? href]
      exact List.nodup_singleton []
  | list e schema items href hitems ih =>
      rw [chains_of_itemSchema? href hitems]
      exact ih (distinct_of_itemSchema? hschema hitems)
  | closed e schema ps href hitems hclosed ih =>
      obtain ⟨hnames, hvalues⟩ := distinct_of_closedProperties? hschema hclosed
      rw [chains_of_closedProperties? href hitems hclosed, List.nodup_append]
      refine ⟨List.nodup_flatMap.2 ⟨fun m hm => ?_, ?_⟩, List.nodup_singleton [], ?_⟩
      · exact (ih m hm (hvalues m hm)).map fun chain other h => (List.cons.inj h).2
      · -- Chains into different values begin with different names.
        refine (List.Nodup.of_map _ hnames).pairwise_of_forall_ne
          fun m hm n hn hne chain hc hc' => ?_
        obtain ⟨inner, -, rfl⟩ := List.mem_map.1 hc
        obtain ⟨inner', -, heq⟩ := List.mem_map.1 hc'
        exact hne (List.inj_on_of_nodup_map hnames hm hn (List.cons.inj heq).1.symm)
      · intro chain hc other hother
        obtain ⟨m, -, hc⟩ := List.mem_flatMap.1 hc
        obtain ⟨inner, -, rfl⟩ := List.mem_map.1 hc
        rw [List.mem_singleton.1 hother]
        exact List.cons_ne_nil _ _
  -- The chain of the object is the empty one, and none of the others is.
  | other e schema href hitems hclosed =>
      rw [chains_of_other href hitems hclosed]
      exact List.nodup_singleton []

/-- Without underscores in the names of properties a chain is read off what it spells. -/
theorem spell_injective {chain other : List String} (hchain : ∀ p ∈ chain, '_' ∉ p.toList)
    (hother : ∀ p ∈ other, '_' ∉ p.toList) (h : spell chain = spell other) : chain = other := by
  -- One more underscore at the end makes sure that one stands behind each name.
  have hcut (chain : List String) (p : String) : (spell (p :: chain)).toList ++ ['_']
      = '_' :: (p.toList ++ '_' :: ((spell chain).toList ++ ['_']).tail) := by
    cases chain with
    | nil => simp [spell]
    | cons q chain => simp [spell]
  have hrest (chain : List String) : (spell chain).toList ++ ['_']
      = '_' :: ((spell chain).toList ++ ['_']).tail := by
    cases chain with
    | nil => simp [spell]
    | cons q chain => simp [spell]
  induction chain generalizing other with
  | nil =>
      cases other with
      | nil => rfl
      | cons q other => simp [spell] at h
  -- The first underscore that stands behind a name ends it, in both spellings.
  | cons p chain ih =>
      cases other with
      | nil => simp [spell] at h
      | cons q other =>
          rw [List.forall_mem_cons] at hchain hother
          have hlist := congrArg (fun s : String => s.toList ++ ['_']) h
          rw [hcut, hcut] at hlist
          obtain ⟨hname, htail⟩ := Name.append_cons_inj hchain.1 hother.1 (List.cons.inj hlist).2
          have hspell : spell chain = spell other := by
            have hboth : (spell chain).toList ++ ['_'] = (spell other).toList ++ ['_'] := by
              rw [hrest chain, hrest other, htail]
            exact String.toList_inj.1 (List.append_cancel_right hboth)
          rw [String.toList_inj.1 hname, ih hchain.2 hother.2 hspell]

/-- Nodes have different names exactly when no two chains spell the same. -/
theorem typeNames_nodup_iff (b : Builder) (e : Entry) {schema : Json} (hschema : schema.Distinct) :
    (b.nodes e schema).typeNames.Nodup ↔ ∀ chain ∈ b.chains e schema,
      ∀ other ∈ b.chains e schema, spell chain = spell other → chain = other := by
  rw [(typeNames_perm b e schema).nodup_iff,
    List.nodup_map_iff_inj_on (chains_nodup b e hschema)]
  simp only [chainName_eq_iff]

/-! ## Properties and their nodes -/

/-- Every object of the map is that of a closed object which the builder comes to. -/
theorem exists_enters_of_mem_objects (b : Builder) (e : Entry) {schema : Json}
    (hschema : schema.Distinct) : ∀ n ∈ (b.nodes e schema).objects,
      ∃ place last inner ps, b.Enters e schema place last inner ∧ b.refOf? last inner = none
        ∧ itemSchema? inner = none ∧ closedProperties? inner = some ps
        ∧ n = objectNode last inner ps := by
  induction e, schema using induction_of_shapes b with
  | reference e schema n href =>
      rw [nodes_of_refOf? href]
      exact nofun
  | list e schema items href hitems ih =>
      rw [nodes_of_itemSchema? href hitems]
      intro n hn
      obtain ⟨place, last, inner, ps, henters, hinner⟩ :=
        ih (distinct_of_itemSchema? hschema hitems) n hn
      exact ⟨_, last, inner, ps, .item href hitems henters, hinner⟩
  | closed e schema ps href hitems hclosed ih =>
      obtain ⟨hnames, hvalues⟩ := distinct_of_closedProperties? hschema hclosed
      rw [nodes_eq_of_closedProperties? href hitems hclosed]
      intro n hn
      -- It is the object of a value inside, or that of the closed object itself.
      rcases List.mem_append.1 hn with hn | hn
      · have hhas : (TypeMap.concat (ps.map fun m => b.nodes (propertyEntry e m.1) m.2)).Has
            (.object n) := hn
        obtain ⟨nodes, hnodes, hn⟩ := TypeMap.has_concat.1 hhas
        obtain ⟨m, hm, rfl⟩ := List.mem_map.1 hnodes
        obtain ⟨place, last, inner, qs, henters, hinner⟩ := ih m hm (hvalues m hm) n hn
        exact ⟨_, last, inner, qs,
          .property href hitems hclosed (Table.lookup_of_mem hnames hm) henters, hinner⟩
      · rw [List.mem_singleton.1 hn]
        exact ⟨[], e, schema, ps, .here e schema, href, hitems, hclosed, rfl⟩
  | other e schema href hitems hclosed =>
      rw [nodes_of_other href hitems hclosed]
      exact nofun

/-- Whether no two chains of property names spell the same. -/
def IsUnambiguous (b : Builder) (e : Entry) (schema : Json) : Prop :=
  ∀ chain ∈ b.chains e schema, ∀ other ∈ b.chains e schema,
    spell chain = spell other → chain = other

/-- Nodes have different names exactly when no two chains of property names spell the same, which
takes an underscore in the name of a property to happen. Then each property of each object leads to
the very node that was made of the property's own value. -/
theorem node?_property (b : Builder) (e : Entry) {schema : Json} (hschema : schema.Distinct) :
    ((b.nodes e schema).typeNames.Nodup ↔ b.IsUnambiguous e schema)
    ∧ ((∀ chain ∈ b.chains e schema, ∀ property ∈ chain, '_' ∉ property.toList) →
      b.IsUnambiguous e schema)
    ∧ (b.IsUnambiguous e schema → ∀ n ∈ (b.nodes e schema).objects, ∀ p ∈ n.properties,
      ∃ place last inner ps value, b.Enters e schema place last inner
        ∧ closedProperties? inner = some ps ∧ n = objectNode last inner ps ∧ (p.name, value) ∈ ps
        ∧ (b.nodes e schema).node? p.target
          = some (b.ownNode (propertyEntry last p.name) value)) := by
  refine ⟨typeNames_nodup_iff b e hschema, fun h chain hchain other hother => ?_, ?_⟩
  · exact spell_injective (h chain hchain) (h other hother)
  · intro h n hn p hp
    have hnodup := (typeNames_nodup_iff b e hschema).2 h
    obtain ⟨place, last, inner, ps, henters, href, hitems, hclosed, rfl⟩ :=
      exists_enters_of_mem_objects b e hschema n hn
    obtain ⟨⟨name, value⟩, hm, rfl⟩ := List.mem_map.1 hp
    refine ⟨place, last, inner, ps, value, henters, hclosed, rfl, hm, ?_⟩
    -- The node of the value goes up to the object, and from there to the root.
    obtain ⟨hown, hname⟩ := has_ownNode b (propertyEntry last name) value
    have hinner : (b.nodes last inner).Has (b.ownNode (propertyEntry last name) value) := by
      rw [nodes_eq_of_closedProperties? href hitems hclosed]
      refine TypeMap.has_append.2 (.inl (TypeMap.has_concat.2 ⟨_, ?_, hown⟩))
      exact List.mem_map_of_mem (f := fun m => b.nodes (propertyEntry last m.1) m.2) hm
    show (b.nodes e schema).node? (propertyEntry last name).typeName = _
    rw [← hname]
    exact TypeMap.node?_of_nodup hnodup (henters.has hinner)

/-- A closed object with a property inside another one, and a property whose name is spelled like
the way to it. -/
def foldedFragment : Json :=
  .object [("additionalProperties", .bool false), ("properties", .object
    [("a", .object [("additionalProperties", .bool false), ("properties", .object
      [("b", .object [("type", .string "boolean")])])]),
    ("a_b", .object [("type", .string "string")])])]

/-- How the fragment is entered. -/
def foldedEntry : Entry := ⟨"test", "x", true, [], 0⟩

/-- Two nodes of the fragment have the same name. The property whose value is a text leads to the
node of the other one, which is a truth value. -/
theorem node?_property_foldedFragment :
    foldedFragment.Distinct
    ∧ ¬ (nodes ⟨"https://a.org", []⟩ foldedEntry foldedFragment).typeNames.Nodup
    ∧ (nodes ⟨"https://a.org", []⟩ foldedEntry foldedFragment).node?
        (propertyEntry foldedEntry "a_b").typeName
      ≠ some (ownNode ⟨"https://a.org", []⟩ (propertyEntry foldedEntry "a_b")
        (.object [("type", .string "string")])) := by
  have hdistinct : foldedFragment.Distinct := by
    simp [foldedFragment, Json.Distinct, Json.DistinctMembers]
  refine ⟨hdistinct, fun hnodup => ?_, by decide +kernel⟩
  have hchains : chains ⟨"https://a.org", []⟩ foldedEntry foldedFragment
      = [["a", "b"], ["a"], ["a_b"], []] := by decide +kernel
  have hall := (node?_property ⟨"https://a.org", []⟩ foldedEntry hdistinct).1.1 hnodup
  unfold IsUnambiguous at hall
  rw [hchains] at hall
  exact absurd (hall ["a", "b"] (by simp) ["a_b"] (by simp) (by decide)) (by decide)

end Builder

end TypeCatalog
