import TypeCatalog.Proofs.Schema.Places
import TypeCatalog.Proofs.TypeMap.Nodes

/-!
# References in the type map

The builder of a type map goes down from the root of a document to the schemas of list items and of
the properties of closed objects. `Builder.Enters` is this descent, with the place that it comes to
and the entry that it makes there; whatever reference it makes there is a node of the document.

The builder reads the references of the document, not those of the fragment that the author wrote.
`Builder.target_of_enters` compares the two readings. Where the emitter rewrote a reference, both
name the same type exactly when nothing stands behind the type, or when what stands there ends with
that very type. Where the emitter passed over a reference, the builder reads the text as it stands.

The node's target is set in `Builder.refOf?` by `Name.resolve` with the domain of the builder, on
the text of `$ref` as it stands in `Emitted.document`. The emitter's reading is
`Emitter.fragmentTarget`. `Name.resolve_uri_append` is the lemma on texts that decides whether the
two agree.
-/

set_option autoImplicit false

namespace TypeCatalog

namespace Builder

/-! ## The descent -/

/-- The schemas that the builder comes to from a schema that it enters: the schema itself, and those
of the items of a list and of the properties of a closed object that are not entered as a
reference. -/
inductive Enters (b : Builder) : Entry → Json → Json.Place → Entry → Json → Prop where
  | here (e : Entry) (schema : Json) : Enters b e schema [] e schema
  | item {e last : Entry} {schema items inner : Json} {place : Json.Place}
      (other : b.refOf? e schema = none) (list : itemSchema? schema = some items)
      (rest : Enters b (itemEntry e) items place last inner) :
      Enters b e schema (.member "items" :: place) last inner
  | property {e last : Entry} {schema value inner : Json} {ps : List (String × Json)}
      {name : String} {place : Json.Place} (other : b.refOf? e schema = none)
      (noList : itemSchema? schema = none) (closed : closedProperties? schema = some ps)
      (found : ps.lookup name = some value)
      (rest : Enters b (propertyEntry e name) value place last inner) :
      Enters b e schema (.member "properties" :: .member name :: place) last inner

variable {b : Builder} {e last : Entry} {schema inner : Json} {place : Json.Place}

/-- The descent comes to what stands at its place. -/
theorem Enters.at? (h : b.Enters e schema place last inner) : schema.at? place = some inner := by
  induction h with
  | here e schema => rfl
  -- The items of a list stand under `items`, and a property under its name inside of `properties`.
  | item _ list _ ih =>
      refine Json.at?_cons_eq_some.2 ⟨_, ?_, ih⟩
      unfold itemSchema? at list
      split at list
      · exact (Option.filter_eq_some_iff.1 list).1
      · cases list
  | property _ _ closed found _ ih =>
      unfold closedProperties? at closed
      split at closed
      · obtain ⟨v, hv, hps⟩ := Option.bind_eq_some_iff.1 closed
        cases v with
        | object members =>
            cases hps
            exact Json.at?_cons_eq_some.2 ⟨_, hv, Json.at?_cons_eq_some.2 ⟨_, found, ih⟩⟩
        | _ => cases hps
      · cases closed

/-- The descent stays within the places of schemas. -/
theorem Enters.isSchemaPlace (h : b.Enters e schema place last inner) :
    Fragment.IsSchemaPlace place := by
  induction h with
  | here e schema => exact .root
  | item _ _ _ ih => exact .direct (by decide) ih
  | property _ _ _ _ _ ih => exact .named (by decide) ih

/-- The descent stays within a system. -/
theorem Enters.system (h : b.Enters e schema place last inner) : last.system = e.system := by
  induction h with
  | here e schema => rfl
  | item _ _ _ ih => exact ih
  | property _ _ _ _ _ ih => exact ih

/-- What the descent comes to has its nodes among those of the root. -/
theorem Enters.has (h : b.Enters e schema place last inner) {n : Node}
    (hn : (b.nodes last inner).Has n) : (b.nodes e schema).Has n := by
  induction h with
  | here e schema => exact hn
  | item other list _ ih =>
      rw [nodes_of_itemSchema? other list]
      exact ih hn
  | property other noList closed found _ ih =>
      rw [nodes_eq_of_closedProperties? other noList closed]
      refine TypeMap.has_append.2 (.inl (TypeMap.has_concat.2 ⟨_, ?_, ih hn⟩))
      exact List.mem_map_of_mem (f := fun m => b.nodes (propertyEntry _ m.1) m.2)
        (Table.mem_of_lookup found)

/-- What the descent enters as a reference becomes a node. -/
theorem Enters.mem_refs {n : RefNode} (h : b.Enters e schema place last inner)
    (hn : b.refOf? last inner = some n) : n ∈ (b.nodes e schema).refs := by
  have hown : (b.nodes last inner).Has (.ref n) := by
    rw [nodes_of_refOf? hn]
    exact List.mem_singleton_self n
  exact h.has hown

/-- A reference to another type has the target that its text names in the system of the entry. -/
theorem target_of_isAlias {n : RefNode} (hn : b.refOf? e schema = some n)
    (halias : n.isAlias = true) {r : String}
    (hr : schema.member? "$ref" = some (.string r)) :
    n.target = Name.resolve (some b.domain) e.system r := by
  unfold refOf? at hn
  split at hn
  · cases hn
    cases halias
  · split at hn
    · cases hn
      cases halias
    · rw [hr] at hn
      cases hn
      rfl

/-! ## Documents -/

/-- How a document is entered. -/
def entryOfRoot? (examples : List Json) (document : Document) : Option Entry :=
  (Name.split? document.typeName).map fun (system, name) => ⟨system, name, true, examples, 0⟩

/-- The document is entered with the entry of its root. -/
theorem documentNodes_of_entryOfRoot? {examples : List Json} {document : Document}
    (h : entryOfRoot? examples document = some e) :
    b.documentNodes examples document = b.nodes e document.schema := by
  unfold entryOfRoot? at h
  obtain ⟨⟨system, name⟩, hsplit, rfl⟩ := Option.map_eq_some_iff.1 h
  unfold documentNodes
  rw [hsplit]

/-- What a reference of a fragment becomes in the type map, where the builder comes to it. It is a
node. Where no step to its place has the name of a keyword for data, the type that the emitter found
is known, and the node has it as its target exactly when nothing stands behind the type in the
reference, or when what stands there ends with a slash and that type. Where a step has such a name,
the target is what the whole text names. -/
theorem target_of_enters (b : Builder) {known : KnownTypes}
    (hknown : ∀ name, known.contains name = true → Name.IsTypeName name) {d : Definition}
    {body : ObjectBody} (hbody : d.body = .object body) {emitted : Emitted}
    (hemit : (Emitter.ofDomain b.domain).emit known d = .ok emitted) {examples : List Json}
    {root entry : Entry} (hroot : entryOfRoot? examples emitted.document = some root)
    {place : Json.Place} {schema : Json}
    (henters : b.Enters root emitted.document.schema place entry schema) {n : RefNode}
    (hnode : b.refOf? entry schema = some n) (halias : n.isAlias = true) {r : String}
    (hlocal : Fragment.isLocal r = false)
    (href : Fragment.referenceAt? body.schema place = some r) :
    n ∈ (b.documentNodes examples emitted.document).refs
      ∧ (Fragment.isInData place = false →
        known.contains ((Emitter.ofDomain b.domain).fragmentTarget d.header.system r) = true
        ∧ (n.target = (Emitter.ofDomain b.domain).fragmentTarget d.header.system r
          ↔ Fragment.behind r = "" ∨ ∃ front, Fragment.behind r
            = front ++ "/" ++ (Emitter.ofDomain b.domain).fragmentTarget d.header.system r))
      ∧ (Fragment.isInData place = true →
        n.target = Name.resolve (some b.domain) root.system r) := by
  have htarget {text : String}
      (htext : Fragment.referenceAt? emitted.document.schema place = some text) :
      n.target = Name.resolve (some b.domain) root.system text := by
    obtain ⟨v, hv, hmember⟩ := Fragment.referenceAt?_eq_some.1 htext
    rw [henters.at?] at hv
    cases hv
    rw [target_of_isAlias hnode halias hmember, henters.system]
  refine ⟨?_, ?_, ?_⟩
  -- In a place outside of data the emitter has written the address of the type that it found.
  · rw [documentNodes_of_entryOfRoot? hroot]
    exact henters.mem_refs hnode
  · intro hplace
    obtain ⟨hcontains, htext⟩ := (Emitter.ofDomain b.domain).referenceAt?_of_emit_eq_ok known hbody
      henters.isSchemaPlace hplace hlocal href hemit
    refine ⟨hcontains, ?_⟩
    rw [htarget htext]
    exact Name.resolve_uri_append (hknown _ hcontains) b.domain root.system
      (Fragment.behind_eq_or r)
  -- In a place inside of data the text is the one of the author.
  · intro hplace
    exact htarget ((Emitter.ofDomain b.domain).referenceAt?_of_isInData known hbody
      henters.isSchemaPlace hplace href hemit)

/-- A link to a part of the document of another type. -/
def linkDefinition : Definition where
  header := ⟨"test", "link", none, none, none, none, none, none⟩
  body := .object ⟨.object [("$ref", .string "flag#/definitions/x")], ⟨none, none⟩⟩

/-- The link has a document and a node, and the node leads to another name than that of the type
that was found known. -/
theorem target_linkDefinition_ne :
    ∃ emitted n, (Emitter.ofDomain "https://a.org").emit ⟨[("test/flag", .bool)]⟩ linkDefinition
        = .ok emitted
      ∧ n ∈ (Builder.documentNodes ⟨"https://a.org", []⟩ [] emitted.document).refs
      ∧ (Emitter.ofDomain "https://a.org").fragmentTarget "test" "flag#/definitions/x" = "test/flag"
      ∧ n.target ≠ "test/flag" := by
  have hknown : ∀ name, KnownTypes.contains ⟨[("test/flag", .bool)]⟩ name = true →
      Name.IsTypeName name := by
    intro name hname
    obtain ⟨kind, hkind⟩ := Option.isSome_iff_exists.1 hname
    rw [(Prod.mk.inj (List.mem_singleton.1 (Table.mem_of_lookup hkind))).1]
    exact ⟨"test", "flag", by decide, by decide, by decide⟩
  have hemit : (Emitter.ofDomain "https://a.org").emit ⟨[("test/flag", .bool)]⟩ linkDefinition
      = .ok ⟨(Emitter.ofDomain "https://a.org").typeDocument linkDefinition, []⟩ := by
    decide +kernel
  have htarget : (Emitter.ofDomain "https://a.org").fragmentTarget "test" "flag#/definitions/x"
      = "test/flag" := by
    decide +kernel
  have hroot : entryOfRoot? [] ((Emitter.ofDomain "https://a.org").typeDocument linkDefinition)
      = some ⟨"test", "link", true, [], 0⟩ := by
    decide +kernel
  obtain ⟨hmem, hchecked, -⟩ := target_of_enters ⟨"https://a.org", []⟩ hknown (d := linkDefinition)
    rfl hemit hroot (.here _ _) (n := Entry.ref ⟨"test", "link", true, [], 0⟩ "definitions/x" false)
    (by decide +kernel) rfl (r := "flag#/definitions/x") (by decide) rfl
  have hiff : (Entry.ref ⟨"test", "link", true, [], 0⟩ "definitions/x" false).target = "test/flag"
      ↔ Fragment.behind "flag#/definitions/x" = ""
        ∨ ∃ front, Fragment.behind "flag#/definitions/x" = front ++ "/" ++ "test/flag" :=
    htarget ▸ (hchecked rfl).2
  refine ⟨_, _, hemit, hmem, htarget, fun heq => ?_⟩
  -- What stands behind the type does not end as the type does.
  rcases hiff.1 heq with hempty | ⟨front, hfront⟩
  · exact absurd hempty (by decide)
  · have hlast := congrArg (·.toList.getLast?) hfront
    have hends : (Fragment.behind "flag#/definitions/x").toList.getLast? = some 'x' := by decide
    simp [hends] at hlast

end Builder

end TypeCatalog
