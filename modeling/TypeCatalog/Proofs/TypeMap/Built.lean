import TypeCatalog.Proofs.Json.Place
import TypeCatalog.Proofs.Schema.Rewriting
import TypeCatalog.Proofs.TypeMap.Construction
import TypeCatalog.Proofs.TypeMap.Written

/-!
# Type maps that were built are read again

What is written of a type map can be read unless a count is no word of 64 bits or the data of an
item is `null`. Neither is in a map that was built of definitions. The counts are those of lists
inside of lists, and a schema has fewer of them than levels. The data comes of the enums that were
made known, and the data of an enum that was read is never `null`: where `null` stands for the data
of an item, the reader takes it for absent.

`TypeMap.decode_toJson_of_built` says so of maps that were built by calls and of the map of some
definitions, and the same of maps that were read themselves.

The proof goes along `Construction.run`. `isReadable_nodes` follows `Builder.nodes` into a schema,
where each `items` adds one to the count and takes one level off the schema (`Builder.IsShallow`).
For documents that are emitted, `isShallow_of_mem_documentsOf` reads the levels off
`Emitter.documentsOf`, and the enums come into the map through `Construction.withEnums`.
-/

set_option autoImplicit false

namespace TypeCatalog

open Result

/-! ## Levels -/

/-- The value of a member has fewer levels than the object. -/
theorem Json.levels_lt_of_member? {v x : Json} {name : String} (h : v.member? name = some x) :
    x.levels < v.levels := by
  cases v with
  | object ms => exact levels_lt_of_mem_members (Table.mem_of_lookup h)
  | _ => cases h

namespace Fragment

variable (f : String → String)

mutual
/-- Rewriting references leaves the levels as they are. -/
theorem levels_mapReferences : ∀ v : Json, (mapReferences f v).levels = v.levels
  | .object ms => congrArg (· + 1) (memberLevels_mapMemberReferences ms)
  | .array xs => congrArg (· + 1) (itemLevels_mapItemReferences xs)
  | .null | .bool _ | .number _ | .string _ => rfl

/-- `levels_mapReferences` for members. -/
theorem memberLevels_mapMemberReferences : ∀ ms : List (String × Json),
    Json.memberLevels (mapMemberReferences f ms) = Json.memberLevels ms
  | [] => rfl
  | (name, v) :: ms => by
      have hv : (mapMember f name v).levels = v.levels := by
        rcases member_cases name v with hdata | ⟨r, rfl, rfl⟩ | ⟨hdata, href⟩
        · rw [mapMember_of_isDataMember hdata]
        · rfl
        · rw [mapMember_of_not hdata href, levels_mapReferences v]
      rw [mapMemberReferences_cons, Json.memberLevels, Json.memberLevels, hv,
        memberLevels_mapMemberReferences ms]

/-- `levels_mapReferences` for items. -/
theorem itemLevels_mapItemReferences : ∀ xs : List Json,
    Json.itemLevels (mapItemReferences f xs) = Json.itemLevels xs
  | [] => rfl
  | x :: xs => by
      rw [mapItemReferences, Json.itemLevels, Json.itemLevels, levels_mapReferences x,
        itemLevels_mapItemReferences xs]
end

end Fragment

/-! ## Nodes -/

/-- A count below 2 to the 64th can be read. -/
theorem Number.fitsNat64_of_lt {n : Nat} (h : n < 2 ^ 64) : fitsNat64 n = true :=
  decide_eq_true ⟨Int.natCast_nonneg n, by omega⟩

namespace TypeMap

/-- The empty map can be read. -/
theorem isReadable_empty : empty.IsReadable := by
  intro n hn
  cases n <;> cases hn

/-- So can the map of one reference that can be read. -/
theorem isReadable_ofRef {n : RefNode} (h : n.IsReadable) : (ofRef n).IsReadable := by
  intro m hm
  cases m with
  | ref m => exact List.mem_singleton.1 hm ▸ h
  | object m => cases hm

/-- And the map of one object that can be. -/
theorem isReadable_ofObject {n : ObjectNode} (h : n.IsReadable) : (ofObject n).IsReadable := by
  intro m hm
  cases m with
  | ref m => cases hm
  | object m => exact List.mem_singleton.1 hm ▸ h

/-- Maps that can be read are read when they are joined. -/
theorem IsReadable.append {m n : TypeMap} (hm : m.IsReadable) (hn : n.IsReadable) :
    (m ++ n).IsReadable := fun x hx => (has_append.1 hx).elim (hm x) (hn x)

/-- So are any number of them. -/
theorem isReadable_concat {maps : List TypeMap} (h : ∀ m ∈ maps, m.IsReadable) :
    (concat maps).IsReadable := by
  intro n hn
  obtain ⟨m, hm, hn⟩ := has_concat.1 hn
  exact h m hm n hn

end TypeMap

namespace Builder

/-- Whether the items of the enums that are known can be read. -/
def IsReadable (b : Builder) : Prop := ∀ p ∈ b.enums, ∀ entry ∈ p.2.items, entry.IsReadable

/-- Whether a schema that is entered under some lists gets counts that are words of 64 bits. Only
the items of a list and the values of properties are entered, so nothing is asked of the rest. -/
structure IsShallow (lists : Nat) (schema : Json) : Prop where
  count : lists < 2 ^ 64
  items : ∀ v, schema.member? "items" = some v → lists + 1 + v.levels ≤ 2 ^ 64
  properties : ∀ v, schema.member? "properties" = some v → v.levels ≤ 2 ^ 64

/-- A schema of few levels is shallow: whatever stands behind its `items` or its `properties` has
fewer. -/
theorem IsShallow.of_levels {lists : Nat} {schema : Json} (h : lists + schema.levels ≤ 2 ^ 64) :
    IsShallow lists schema := by
  have hpos := schema.levels_pos
  refine ⟨by omega, fun v hv => ?_, fun v hv => ?_⟩
  · have hlt := Json.levels_lt_of_member? hv
    omega
  · have hlt := Json.levels_lt_of_member? hv
    omega

variable {b : Builder} (hb : b.IsReadable)

include hb

/-- A reference that a schema is entered as has the count of its entry, and the items of an enum
that is known. -/
theorem isReadable_of_refOf? {e : Entry} {schema : Json} {n : RefNode} (hdepth : e.depth < 2 ^ 64)
    (h : b.refOf? e schema = some n) : n.IsReadable := by
  have hcount := Number.fitsNat64_of_lt hdepth
  unfold refOf? at h
  split at h
  -- The document is an enum that is known, and the items are those which were made known.
  · next root hroot =>
      cases h
      refine ⟨hcount, fun es hes => ?_⟩
      cases hes
      split at hroot
      · exact hb _ (Table.mem_of_lookup hroot)
      · cases hroot
  · -- All other shapes make references without items.
    split at h
    · cases h
      exact ⟨hcount, nofun⟩
    · split at h
      · cases h
        exact ⟨hcount, nofun⟩
      · obtain ⟨t, -, h⟩ := Option.bind_eq_some_iff.1 h
        split at h
        · cases h
          exact ⟨hcount, nofun⟩
        · cases h

/-- The nodes of a schema can be read. Going into a list, the count grows by one and the levels get
fewer, so their sum does not grow. -/
theorem isReadable_nodes (e : Entry) (schema : Json) (h : IsShallow e.depth schema) :
    (b.nodes e schema).IsReadable := by
  induction e, schema using induction_of_shapes b with
  | reference e schema n href =>
      rw [nodes_of_refOf? href]
      exact TypeMap.isReadable_ofRef (isReadable_of_refOf? hb h.count href)
  | list e schema items href hitems ih =>
      rw [nodes_of_itemSchema? href hitems]
      unfold itemSchema? at hitems
      split at hitems
      · have hlevels := h.items items (Option.filter_eq_some_iff.1 hitems).1
        exact ih (.of_levels hlevels)
      · cases hitems
  | closed e schema ps href hitems hclosed ih =>
      rw [nodes_eq_of_closedProperties? href hitems hclosed]
      unfold closedProperties? at hclosed
      split at hclosed
      · obtain ⟨v, hv, hps⟩ := Option.bind_eq_some_iff.1 hclosed
        -- The count starts again at each property, so only the levels of its schema matter.
        have hlevels := h.properties v hv
        refine (TypeMap.isReadable_concat ?_).append
          (TypeMap.isReadable_ofObject (Number.fitsNat64_of_lt h.count))
        rw [List.forall_mem_map]
        intro m hm
        refine ih m hm (.of_levels ?_)
        cases v with
        | object ms =>
            cases hps
            have hlt := Json.levels_lt_of_mem_members hm
            show 0 + m.2.levels ≤ 2 ^ 64
            omega
        | _ => cases hps
      · cases hclosed
  | other e schema href hitems hclosed =>
      rw [nodes_of_other href hitems hclosed]
      exact TypeMap.isReadable_ofRef ⟨Number.fitsNat64_of_lt h.count, nofun⟩

/-- The nodes of a document whose schema is shallow can be read. -/
theorem isReadable_documentNodes (examples : List Json) {document : Document}
    (h : IsShallow 0 document.schema) : (b.documentNodes examples document).IsReadable := by
  unfold documentNodes
  split
  · exact isReadable_nodes hb _ _ h
  · exact TypeMap.isReadable_empty

/-- So can those of a definition, if all of its documents are such. -/
theorem isReadable_definitionNodes (d : Definition) {emitted : Emitted}
    (h : ∀ document ∈ emitted.documents, IsShallow 0 document.schema) :
    (b.definitionNodes d emitted).IsReadable := by
  obtain ⟨hdocument, hvariants⟩ := List.forall_mem_cons.1 h
  refine (isReadable_documentNodes hb _ hdocument).append (TypeMap.isReadable_concat ?_)
  rw [List.forall_mem_map]
  exact fun document hmem => isReadable_documentNodes hb [] (hvariants document hmem)

end Builder

/-! ## Documents -/

namespace Json

/-- A member of what was put into a list was there before, or holds what was put. -/
theorem mem_put {name : String} {value : Json} {ms : List (String × Json)} {m : String × Json}
    (h : m ∈ put name value ms) : m ∈ ms ∨ m.2 = value := by
  induction ms with
  | nil => exact .inr (by rw [List.mem_singleton.1 h])
  | cons n ns ih =>
      unfold put at h
      split at h
      · rcases List.mem_cons.1 h with rfl | h
        · exact .inr rfl
        · exact .inl (.tail _ h)
      · rcases List.mem_cons.1 h with rfl | h
        · exact .inl (.head _)
        · exact (ih h).imp_left (.tail _)

/-- The values of members that are put one after the other are those that were put. No name has to
be new. -/
theorem mem_foldl_put {α : Type} {name : α → String} {value : α → Json} {xs : List α}
    {ms : List (String × Json)} {m : String × Json}
    (h : m ∈ xs.foldl (fun ms x => put (name x) (value x) ms) ms) :
    m ∈ ms ∨ ∃ x ∈ xs, m.2 = value x := by
  induction xs generalizing ms with
  | nil => exact .inl h
  | cons x xs ih =>
      rcases ih h with hm | ⟨y, hy, hm⟩
      · exact (mem_put hm).imp_right fun hm => ⟨x, .head _, hm⟩
      · exact .inr ⟨y, .tail _ hy, hm⟩

end Json

namespace Emitter

variable {e : Emitter}

/-- The schema of a property holds a reference, inside of a list at most. -/
theorem levels_propertySchema_le (system : String) (p : Property) :
    (e.propertySchema system p).levels ≤ 3 := by
  unfold propertySchema
  cases nonEmpty p.summary <;> cases p.array <;> simp [Json.levels, Json.memberLevels]

/-- No header has a member of these names, so those of a document come of a given schema. -/
theorem levels_lt_of_member?_typeDocument {d : Definition} {b : ObjectBody}
    (hbody : d.body = .object b) {name : String} (hname : name ∈ ["items", "properties"]) {v : Json}
    (hv : (e.typeDocument d).schema.member? name = some v) : v.levels < b.schema.levels := by
  have hlist : ∀ n ∈ ["items", "properties"], n ∈ "$ref" :: Fragment.namingKeywords
      ++ Fragment.schemaKeywords ++ Fragment.listKeywords := by decide
  have hnot : name ∉ (e.headerMembers d.typeName d.header).map Prod.fst :=
    e.notMem_headerMembers (hlist name hname)
  rw [e.schema_typeDocument_object hbody] at hv
  have hfragment := (lookup_withFragment _ hnot).symm.trans hv
  rw [← Fragment.levels_mapReferences (e.emittedReference d.header.system) b.schema]
  exact Json.levels_lt_of_member? hfragment

/-- Of the other documents only those of records have such a member: the schemas of properties. -/
theorem levels_le_of_member?_demandSchema {t name : String} {header : Header} {demand : Demand}
    (hname : name ∈ ["items", "properties"]) {v : Json}
    (hv : (e.demandSchema t header demand).member? name = some v) :
    name = "properties" ∧ v.levels ≤ 4 := by
  rcases List.mem_append.1 (Table.mem_of_lookup hv) with hm | hm
  · have hapart : ∀ n ∈ ["items", "properties"],
        n ∉ ["$schema", "$id", "title", "description", "deprecated", "examples"] := by decide
    exact absurd (fst_mem_of_mem_headerMembers hm) (hapart name hname)
  · rcases mem_demandMembers hm with hatom | ⟨system, ps, required, -, heq | heq⟩
    · have hapart : ∀ n ∈ ["items", "properties"], n ∉ atomKeywords := by decide
      exact absurd hatom (hapart name hname)
    · obtain ⟨rfl, -⟩ := Prod.mk.inj heq
      exact absurd hname (by decide)
    · obtain ⟨rfl, rfl⟩ := Prod.mk.inj heq
      refine ⟨rfl, Nat.succ_le_succ (Json.memberLevels_le (by decide) fun m hm => ?_)⟩
      obtain hnil | ⟨p, -, hp⟩ := Json.mem_foldl_put hm
      · cases hnil
      · rw [hp]
        exact levels_propertySchema_le system p

/-- The documents of a definition are shallow, if its schema is in case that it is given by one. -/
theorem isShallow_of_mem_documentsOf {d : Definition}
    (h : ∀ b, d.body = .object b → b.schema.levels ≤ 2 ^ 64) {document : Document}
    (hmem : document ∈ e.documentsOf d) : Builder.IsShallow 0 document.schema := by
  by_cases hkind : d.kind = .object
  · obtain ⟨b, hbody⟩ : ∃ b, d.body = .object b := by
      unfold Definition.kind at hkind
      cases hbody : d.body with
      | object b => exact ⟨b, rfl⟩
      | _ =>
          rw [hbody] at hkind
          cases hkind
    have hlevels := h b hbody
    -- Such a definition has one document, with the fragment in it.
    obtain rfl : document = e.typeDocument d := by
      unfold documentsOf variantDocuments at hmem
      rw [hbody] at hmem
      exact List.mem_singleton.1 hmem
    refine ⟨by decide, fun v hv => ?_, fun v hv => ?_⟩
    · have hlt := levels_lt_of_member?_typeDocument hbody (by decide) hv
      omega
    · have hlt := levels_lt_of_member?_typeDocument hbody (by decide) hv
      omega
  -- Any other document is a demand, whose schema has a few levels whatever was defined.
  · obtain ⟨demand, header, -, hschema⟩ := e.exists_demand_of_mem_documentsOf hkind hmem
    rw [hschema]
    refine ⟨by decide, fun v hv => ?_, fun v hv => ?_⟩
    · have hname := (levels_le_of_member?_demandSchema (by decide) hv).1
      exact absurd hname (by decide)
    · have hle := (levels_le_of_member?_demandSchema (by decide) hv).2
      omega

end Emitter

/-! ## Calls -/

namespace Construction

/-- Whether a call enters what can be read again. -/
def Call.IsReadable : Call → Prop
  | .withEnums declared => ∀ p ∈ declared, (Body.enum p.2).IsReadable
  | .addDefinition _ emitted => ∀ document ∈ emitted.documents, Builder.IsShallow 0 document.schema
  | .addSchema e schema => Builder.IsShallow e.depth schema

variable {c : Construction}

/-- What one call leaves: the items of the enums that are known and the nodes can be read. -/
theorem isReadable_apply (hbuilder : c.builder.IsReadable) (hmap : c.map.IsReadable) {call : Call}
    (h : call.IsReadable) :
    (c.apply call).builder.IsReadable ∧ (c.apply call).map.IsReadable := by
  cases call with
  | withEnums declared =>
      rw [apply, withEnums_eq]
      refine ⟨?_, hmap⟩
      show ∀ p ∈ _ ++ c.builder.enums, _
      rw [List.forall_mem_append]
      refine ⟨fun p hp => ?_, hbuilder⟩
      obtain ⟨entry, hentry, rfl⟩ := List.mem_map.1 (List.mem_reverse.1 hp)
      -- An item of a known enum has the data of the declared one.
      intro item hitem
      obtain ⟨declaredItem, hdeclared, rfl⟩ := List.mem_map.1 hitem
      exact h entry hentry declaredItem hdeclared
  | addDefinition d emitted =>
      rw [apply, addDefinition_eq]
      exact ⟨hbuilder, hmap.append (Builder.isReadable_definitionNodes hbuilder d h)⟩
  | addSchema e schema =>
      rw [apply, addSchema_eq]
      exact ⟨hbuilder, hmap.append (Builder.isReadable_nodes hbuilder e schema h)⟩

/-- What any number of calls leaves. -/
theorem isReadable_run (hbuilder : c.builder.IsReadable) (hmap : c.map.IsReadable)
    {calls : List Call} (h : ∀ call ∈ calls, call.IsReadable) : (c.run calls).map.IsReadable := by
  unfold run
  induction calls generalizing c with
  | nil => exact hmap
  | cons call calls ih =>
      obtain ⟨hcall, hcalls⟩ := List.forall_mem_cons.1 h
      obtain ⟨hbuilder', hmap'⟩ := isReadable_apply hbuilder hmap hcall
      rw [List.foldl_cons]
      exact ih hbuilder' hmap' hcalls

/-- The map that calls make can be read when what they enter can be. -/
theorem isReadable_run_new (domain : String) {calls : List Call}
    (h : ∀ call ∈ calls, call.IsReadable) : ((new domain).run calls).map.IsReadable :=
  isReadable_run (fun _ hp => absurd hp List.not_mem_nil) TypeMap.isReadable_empty h

end Construction

/-! ## Definitions that were read -/

namespace Definition

/-- Whether a definition was read of some value, and may have got its defaults since. -/
def IsRead (d : Definition) : Prop :=
  ∃ v d', decode v = .ok d' ∧ (d = d' ∨ d = d'.withDefaults)

/-- Whether a word counts the levels of the schema that a definition may be given by. -/
def IsShallow (d : Definition) : Prop := ∀ b, d.body = .object b → b.schema.levels ≤ 2 ^ 64

/-- The body of a definition that was read can be. -/
theorem IsRead.isReadable {d : Definition} (h : d.IsRead) : d.body.IsReadable := by
  obtain ⟨v, d', hv, hd⟩ := h
  have hbody : d'.body.IsReadable := by
    cases v with
    | object ms =>
        obtain ⟨kind, hkind, -⟩ := bind_eq_ok.1 hv
        exact Body.isReadable_of_decode (Shape.parts_of_decode hkind hv).1
    | array xs =>
        cases xs with
        | nil => cases hv
        | cons x xs =>
            obtain ⟨kind, -, hv⟩ := bind_eq_ok.1 hv
            cases hv
    | _ => cases hv
  rcases hd with rfl | rfl
  · exact hbody
  · exact Body.isReadable_withDefaults hbody

end Definition

/-- Whether a call enters definitions that were read: enums among them, their documents, or a schema
with levels that a word counts, together with the lists around it. -/
def Construction.Call.EntersRead : Call → Prop
  | .withEnums declared => ∀ p ∈ declared, Definition.IsRead ⟨p.1, .enum p.2⟩
  | .addDefinition d emitted =>
    d.IsRead ∧ d.IsShallow ∧ ∃ e known, Emitter.emit e known d = .ok emitted
  | .addSchema e schema => e.depth + schema.levels ≤ 2 ^ 64

/-- A call that enters only definitions that were read enters what can be read. -/
theorem Construction.Call.EntersRead.isReadable {call : Call} (h : call.EntersRead) :
    call.IsReadable := by
  cases call with
  | withEnums declared => exact fun p hp => (h p hp).isReadable
  | addDefinition d emitted =>
      obtain ⟨-, hshallow, e, known, hemit⟩ := h
      obtain ⟨-, rfl⟩ := (e.emit_eq_ok_iff known).1 hemit
      exact fun document hmem => Emitter.isShallow_of_mem_documentsOf hshallow hmem
  | addSchema e schema => exact .of_levels h

/-- The calls that make the map of definitions enter them. -/
theorem Construction.entersRead_of_mem_callsOf {e : Emitter} {known : KnownTypes}
    {ds : List Definition} (h : ∀ d ∈ ds, d.IsRead ∧ d.IsShallow) :
    ∀ call ∈ callsOf ds (withDocuments e known ds), call.EntersRead := by
  unfold callsOf withDocuments
  rw [List.forall_mem_cons, List.forall_mem_map]
  constructor
  · intro p hp
    obtain ⟨d, hd, hbody⟩ := List.mem_filterMap.1 hp
    obtain ⟨header, body⟩ := d
    cases body with
    | enum b =>
        cases hbody
        exact (h _ hd).1
    | _ => cases hbody
  · intro p hp
    obtain ⟨d, hd, hemitted⟩ := List.mem_filterMap.1 hp
    obtain ⟨emitted, hemit, rfl⟩ := Option.map_eq_some_iff.1 hemitted
    obtain ⟨hread, hshallow⟩ := h d hd
    exact ⟨hread, hshallow, e, known, toOption_eq_some.1 hemit⟩

/-- A type map is read of what is written of it: nodes, items, data and examples are as they were.
It is so for a map that was built by calls, in any order, that entered definitions which were read;
for the map of such definitions; and for a map that was itself read of a value. The definitions may
have got their defaults or not. A word has to count the levels of the schemas that were entered,
since the lists inside of each other are counted in words. A schema with more levels than a word
counts has more parts than a memory has addresses. -/
theorem TypeMap.decode_toJson_of_built :
    (∀ domain calls, (∀ call ∈ calls, Construction.Call.EntersRead call) →
      decode ((Construction.new domain).run calls).map.toJson
        = .ok ((Construction.new domain).run calls).map)
    ∧ (∀ domain ds, (∀ d ∈ ds, Definition.IsRead d ∧ d.IsShallow) →
      decode (ofDefinitions domain ds).toJson = .ok (ofDefinitions domain ds))
    ∧ ∀ v m, decode v = .ok m → decode m.toJson = .ok m := by
  have hrun (domain : String) (calls : List Construction.Call)
      (h : ∀ call ∈ calls, call.EntersRead) :
      ((Construction.new domain).run calls).map.IsReadable :=
    Construction.isReadable_run_new domain fun call hcall => (h call hcall).isReadable
  refine ⟨fun domain calls h => decode_toJson (hrun domain calls h), fun domain ds h => ?_,
    fun v m h => decode_toJson (isReadable_of_decode h)⟩
  rw [Construction.ofDefinitions_eq_run]
  exact decode_toJson (hrun _ _ (Construction.entersRead_of_mem_callsOf h))

/-- An enum whose first item has data, in which `null` stands for a value. -/
def moodBody : EnumBody :=
  ⟨[⟨"calm", "Calm", none, none, some "", some (.object [("rate", .null)])⟩,
    ⟨"wild", "Wild", none, none, none, none⟩], none⟩

def moodHeader : Header :=
  ⟨"test", "mood", none, none, none, none, none, some [⟨.null, none⟩]⟩

/-- A record with a list of moods. -/
def diaryDefinition : Definition where
  header := ⟨"test", "diary", none, none, none, none, none, none⟩
  body := .record ⟨[⟨"moods", none, "mood", some true, none⟩], none, none, [], none⟩

/-- A map of one node, as it may be shipped. -/
def shippedMap : Json := .object [("refTypes", .array []), ("objectTypes", .array [.object
  [("name", .string "diary"), ("system", .string "test"), ("properties", .array []),
    ("isRootType", .bool true), ("objectTypeArrayCount", .ofNat 3),
    ("documentation", .null)]])]

/-- The map of the two definitions, one of them with its defaults, the map in which only the enum
was entered, and the shipped map. -/
theorem TypeMap.decode_toJson_of_moods :
    TypeMap.decode (TypeMap.ofDefinitions "https://a.org"
        [⟨moodHeader, .enum moodBody⟩, diaryDefinition.withDefaults]).toJson
      = .ok (TypeMap.ofDefinitions "https://a.org"
        [⟨moodHeader, .enum moodBody⟩, diaryDefinition.withDefaults])
    ∧ (∀ c, c = (Construction.new "https://a.org").run [.withEnums [(moodHeader, moodBody)],
        .addSchema ⟨"test", "mood", true, [.null], 0⟩ (.object [])] →
        TypeMap.decode c.map.toJson = .ok c.map)
    ∧ ∃ m, TypeMap.decode shippedMap = .ok m ∧ TypeMap.decode m.toJson = .ok m := by
  have hmood : Definition.IsRead ⟨moodHeader, .enum moodBody⟩ :=
    ⟨Definition.toJson ⟨moodHeader, .enum moodBody⟩, _, rfl, .inl rfl⟩
  have hdiary : diaryDefinition.withDefaults.IsRead :=
    ⟨diaryDefinition.toJson, _, rfl, .inr rfl⟩
  obtain ⟨hcalls, hdefinitions, hshipped⟩ := TypeMap.decode_toJson_of_built
  obtain ⟨m, hm⟩ : ∃ m, TypeMap.decode shippedMap = .ok m := ⟨_, rfl⟩
  refine ⟨hdefinitions _ _ ?_, ?_, m, hm, hshipped _ _ hm⟩
  · simp only [List.forall_mem_cons]
    exact ⟨⟨hmood, nofun⟩, ⟨hdiary, nofun⟩, List.forall_mem_nil _⟩
  · rintro _ rfl
    refine hcalls _ _ ?_
    simp only [List.forall_mem_cons]
    refine ⟨?_, ?_, List.forall_mem_nil _⟩
    · intro p hp
      obtain rfl := List.mem_singleton.1 hp
      exact hmood
    · show 0 + (Json.object []).levels ≤ 2 ^ 64
      decide

end TypeCatalog
