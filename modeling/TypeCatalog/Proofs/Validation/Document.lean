import TypeCatalog.Proofs.Definition.Meaning
import TypeCatalog.Proofs.Validation.Address

/-!
# Documents as schemas

A document that was emitted names itself by its address, says which version of the schema language
it is written in, and holds schemas only as the properties of a record. `Plain` is said of these:
they have no names, and what they refer to are types. `Emitter.Describes` is said of the document
of a type whose demand is known.

The document is what `Emitter.demandSchema` writes, the members of `headerMembers` in front of those
of `demandMembers`. What the library asks of a document is read off by the names of members:
`Draft.detect` looks at `$schema`, `Draft.ownAddress?` at `$id`, and `Draft.subschemas` at the
keywords that hold schemas (`Draft.holding?`).
-/

set_option autoImplicit false

namespace TypeCatalog

/-! ## Members -/

/-- Members whose names differ are put one behind the other. -/
theorem Json.foldl_put {α : Type} (name : α → String) (value : α → Json) (xs : List α)
    (ms : List (String × Json)) (h : (ms.map Prod.fst ++ xs.map name).Nodup) :
    xs.foldl (fun ms x => Json.put (name x) (value x) ms) ms
      = ms ++ xs.map fun x => (name x, value x) := by
  have hput (k : String) (v : Json) : ∀ ns : List (String × Json), k ∉ ns.map Prod.fst →
      Json.put k v ns = ns ++ [(k, v)] := by
    intro ns
    induction ns with
    | nil => exact fun _ => rfl
    | cons n ns ih =>
        intro hk
        rw [List.map_cons, List.mem_cons, not_or] at hk
        rw [Json.put, if_neg (Ne.symm hk.1), ih hk.2, List.cons_append]
  induction xs generalizing ms with
  | nil => simp
  | cons x xs ih =>
      have hx : name x ∉ ms.map Prod.fst := fun hmem =>
        List.disjoint_of_nodup_append h hmem List.mem_cons_self
      rw [List.foldl_cons, hput _ _ ms hx, ih, List.append_assoc, List.map_cons,
        List.singleton_append]
      rw [List.map_append, List.append_assoc]
      exact h

namespace Emitter

variable {e : Emitter}

/-- The members of a header name and describe a type. -/
theorem fst_mem_of_mem_headerMembers {typeName : String} {header : Header} {m : String × Json}
    (h : m ∈ e.headerMembers typeName header) :
    m.1 ∈ ["$schema", "$id", "title", "description", "deprecated", "examples"] := by
  unfold headerMembers at h
  rcases List.mem_append.1 h with h | h
  · rcases List.mem_append.1 h with h | h
    · rcases List.mem_append.1 h with h | h
      · simp only [List.mem_cons, List.not_mem_nil, or_false] at h
        rcases h with rfl | rfl | rfl <;> simp
      · split at h
        · rw [List.mem_singleton.1 h]
          simp
        · cases h
    · split at h
      · rw [List.mem_singleton.1 h]
        simp
      · cases h
  · split at h
    · cases h
    · rw [List.mem_singleton.1 h]
      simp

/-- What is no member of a header is found behind it. -/
theorem find?_headerMembers_append {typeName name : String} {header : Header}
    (ms : List (String × Json))
    (hname : name ∉ ["$schema", "$id", "title", "description", "deprecated", "examples"]) :
    (e.headerMembers typeName header ++ ms).find? (·.1 = name) = ms.find? (·.1 = name) := by
  rw [List.find?_append, List.find?_eq_none.2, Option.none_or]
  intro m hm
  simp only [decide_eq_true_eq]
  rintro rfl
  exact hname (fst_mem_of_mem_headerMembers hm)

/-- The keywords of documents that look at the value alone. -/
def atomKeywords : List String :=
  ["type", "enum", "minimum", "maximum", "exclusiveMinimum", "exclusiveMaximum", "minLength",
    "maxLength", "pattern", "required"]

/-- The members that write a demand down look at the value alone, apart from those that say which
properties a record has. -/
theorem mem_demandMembers {demand : Demand} {m : String × Json} (h : m ∈ e.demandMembers demand) :
    m.1 ∈ atomKeywords ∨ ∃ system properties required,
      demand = .record system properties required
        ∧ (m = ("additionalProperties", .bool false) ∨ m = ("properties", .object
          (properties.foldl (fun ms p => Json.put p.name (e.propertySchema system p) ms) []))) := by
  unfold atomKeywords
  -- A demand with bounds leaves some of the members out.
  cases demand with
  | float b =>
      simp only [demandMembers, List.mem_cons, List.not_mem_nil, or_false] at h
      left
      rcases h with rfl | rfl | rfl
      · simp
      · show (if _ then _ else _) ∈ _
        split <;> simp
      · show (if _ then _ else _) ∈ _
        split <;> simp
  | string b =>
      simp only [demandMembers, List.mem_append, List.mem_singleton] at h
      left
      rcases h with ((rfl | h) | rfl) | h
      · simp
      · split at h
        · cases h
        · rw [List.mem_singleton.1 h]
          simp
      · simp
      · split at h
        · rw [List.mem_singleton.1 h]
          simp
        · cases h
  | record system properties required =>
      simp only [demandMembers, recordMembers, List.mem_append, List.mem_cons, List.not_mem_nil,
        or_false] at h
      rcases h with (rfl | rfl | rfl) | h
      · exact .inl (by simp)
      · exact .inr ⟨system, properties, required, rfl, .inl rfl⟩
      · exact .inr ⟨system, properties, required, rfl, .inr rfl⟩
      · split at h
        · cases h
        · rw [List.mem_singleton.1 h]
          exact .inl (by simp)
  | _ =>
      simp only [demandMembers, List.mem_cons, List.not_mem_nil, or_false] at h
      left
      rcases h with rfl | rfl | rfl <;> simp

/-- The members of the schema of a property that describe it. -/
def summaryMembers (p : Property) : List (String × Json) :=
  ((nonEmpty p.summary).map fun s => ("description", Json.string s)).toList

/-- The schema of a property has its description in front, and then a reference or a list of
references. -/
theorem propertySchema_eq (system : String) (p : Property) :
    e.propertySchema system p = .object (summaryMembers p ++
      if p.array then
        [("type", .string "array"),
          ("items", .object [("$ref", .string (e.uri (propertyTarget system p)))])]
      else [("$ref", .string (e.uri (propertyTarget system p)))]) := by
  unfold propertySchema summaryMembers
  cases nonEmpty p.summary <;> rfl

/-- What describes a property is not found where something else is looked for. -/
theorem find?_summaryMembers_append {test : String × Json → Bool} (p : Property)
    (ms : List (String × Json)) (htest : ∀ v, test ("description", v) = false) :
    (summaryMembers p ++ ms).find? test = ms.find? test := by
  unfold summaryMembers
  cases nonEmpty p.summary with
  | none => rfl
  | some s =>
      show List.find? test (("description", Json.string s) :: ms) = _
      rw [List.find?_cons_of_neg (by rw [htest]; exact Bool.false_ne_true)]

/-- The description is dropped where a keyword is asked for. -/
theorem filter_summaryMembers_append {test : String × Json → Bool} (p : Property)
    (ms : List (String × Json)) (htest : ∀ v, test ("description", v) = false) :
    (summaryMembers p ++ ms).filter test = ms.filter test := by
  unfold summaryMembers
  cases nonEmpty p.summary with
  | none => rfl
  | some s =>
      show List.filter test (("description", Json.string s) :: ms) = _
      rw [List.filter_cons_of_neg (by rw [htest]; exact Bool.false_ne_true)]

/-- The list of the names that have to be there, if there are any. -/
def requiredMembers (required : List String) : List (String × Json) :=
  if required.isEmpty then [] else [("required", .ofStrings required)]

/-- The members that write a record down: properties whose names differ stand in their order. -/
theorem demandMembers_record {system : String} {properties : List Property}
    {required : List String} (hnodup : (properties.map (·.name)).Nodup) :
    e.demandMembers (.record system properties required)
      = ("type", .string "object") :: ("additionalProperties", .bool false)
        :: ("properties", .object (properties.map fun p => (p.name, e.propertySchema system p)))
        :: requiredMembers required := by
  have hput := @Json.foldl_put Property (·.name) (e.propertySchema system) properties []
    (by simpa using hnodup)
  show e.recordMembers system properties required = _
  rw [recordMembers, hput]
  rfl

variable {t : String} {header : Header} {demand : Demand}

/-- The document names the version of the schema language. -/
theorem member?_schema_demandSchema :
    (e.demandSchema t header demand).member? "$schema" = some (.string draft) := rfl

/-- It names itself by the address of its type. -/
theorem member?_id_demandSchema :
    (e.demandSchema t header demand).member? "$id" = some (.string (e.uri t)) := rfl

/-- A document refers to nothing itself. -/
theorem ref_notMem_demandSchema :
    "$ref" ∉ (e.headerMembers t header ++ e.demandMembers demand).map Prod.fst := by
  intro h
  obtain ⟨m, hm, hname⟩ := List.mem_map.1 h
  rcases List.mem_append.1 hm with hm | hm
  · have hmem := fst_mem_of_mem_headerMembers hm
    rw [hname] at hmem
    simp at hmem
  · rcases mem_demandMembers hm with hmem | ⟨_, _, _, -, rfl | rfl⟩
    · rw [hname] at hmem
      simp [atomKeywords] at hmem
    · exact absurd hname (by decide)
    · exact absurd hname (by simp)

/-- It is no reference. -/
theorem member?_ref_demandSchema : (e.demandSchema t header demand).member? "$ref" = none :=
  Table.lookup_eq_none_iff_forall.2 ref_notMem_demandSchema

/-- And none of its members is `$ref`. -/
theorem find?_ref_demandSchema :
    (e.headerMembers t header ++ e.demandMembers demand).find? (·.1 = "$ref") = none := by
  rw [List.find?_eq_none]
  intro m hm
  simp only [decide_eq_true_eq]
  exact fun hname => ref_notMem_demandSchema (List.mem_map.2 ⟨m, hm, hname⟩)

end Emitter

/-! ## Schemas inside documents -/

/-- A schema that names no version is in that of the one around it. -/
theorem Draft.detect_of_unnamed {v : Json} (hschema : v.member? "$schema" = none) :
    Draft.draft7.detect v = .ok .draft7 := by
  unfold Draft.detect
  rw [hschema]
  rfl

/-- A schema without `$id` has no address of its own. -/
theorem Draft.ownAddress?_of_unnamed {v : Json} (hid : v.member? "$id" = none) :
    Draft.draft7.ownAddress? v = none := by
  unfold Draft.ownAddress? Draft.idText?
  dsimp only
  rw [if_neg (by decide)]
  split
  · rfl
  · rw [if_neg (by decide), hid]
    rfl

/-- A schema without a name of its own that refers to nothing but types, as do the schemas inside
it. -/
inductive Plain (e : Emitter) : Json → Prop where
  | mk {v : Json} (hid : v.member? "$id" = none) (hschema : v.member? "$schema" = none)
      (href : ∀ s, v.member? "$ref" = some (.string s) → ∃ t, Name.IsTypeName t ∧ s = e.uri t)
      (hinside : ∀ x ∈ Draft.draft7.subschemas v, Plain e x) : Plain e v

namespace Plain

variable {e : Emitter}

/-- A boolean schema is plain. -/
theorem boolean (b : Bool) : Plain e (.bool b) := .mk rfl rfl nofun nofun

/-- So is a reference to a type. -/
theorem reference {t : String} (ht : Name.IsTypeName t) :
    Plain e (.object [("$ref", .string (e.uri t))]) := by
  refine .mk rfl rfl (fun s hs => ?_) nofun
  cases hs
  exact ⟨t, ht, rfl⟩

/-- The schema of a property is plain, whether it is a reference or a list of such. -/
theorem propertySchema {system : String} {p : Property}
    (h : Name.IsTypeName (Emitter.propertyTarget system p)) :
    Plain e (e.propertySchema system p) := by
  have hitems {x : Json} (hx : x ∈ [Json.object [("$ref", .string
      (e.uri (Emitter.propertyTarget system p)))]]) : Plain e x := by
    rw [List.mem_singleton.1 hx]
    exact .reference h
  unfold Emitter.propertySchema
  cases p.array with
  | true =>
      cases Emitter.nonEmpty p.summary with
      | none => exact .mk rfl rfl nofun fun x hx => hitems hx
      | some s => exact .mk rfl rfl nofun fun x hx => hitems hx
  | false =>
      cases Emitter.nonEmpty p.summary with
      | none => exact .reference h
      | some s =>
          refine .mk rfl rfl (fun u hu => ?_) nofun
          cases hu
          exact ⟨_, h, rfl⟩

/-- A plain schema is of the draft that it is read in. -/
theorem detect {v : Json} (h : Plain e v) : Draft.draft7.detect v = .ok .draft7 := by
  obtain ⟨-, hschema, -, -⟩ := h
  exact Draft.detect_of_unnamed hschema

/-- And it has no address of its own. -/
theorem ownAddress? {v : Json} (h : Plain e v) : Draft.draft7.ownAddress? v = none := by
  obtain ⟨hid, -, -, -⟩ := h
  exact Draft.ownAddress?_of_unnamed hid

end Plain

/-- Whether a schema is the document of a type with a known demand, which refers to nothing but
types. -/
structure Emitter.Describes (e : Emitter) (meaning : String → Option Demand) (t : String)
    (schema : Json) : Prop where
  name : Name.IsTypeName t
  demand : ∃ header demand, meaning t = some demand ∧ demand.WellFormed
    ∧ (∀ u ∈ demand.targets, Name.IsTypeName u) ∧ schema = e.demandSchema t header demand

namespace Emitter.Describes

variable {e : Emitter} {meaning : String → Option Demand} {t : String} {schema : Json}

/-- A document is of the draft that it names. -/
theorem detect (h : e.Describes meaning t schema) :
    Draft.draft7.detect schema = .ok .draft7 := by
  obtain ⟨header, demand, -, -, -, rfl⟩ := h.demand
  unfold Draft.detect
  rw [member?_schema_demandSchema]
  decide

/-- A document gives itself the address of its type. -/
theorem ownAddress? {domain : String} (hweb : IsWebDomain domain)
    (h : (Emitter.ofDomain domain).Describes meaning t schema) :
    Draft.draft7.ownAddress? schema = some ((Emitter.ofDomain domain).uri t) := by
  obtain ⟨header, demand, -, -, -, rfl⟩ := h.demand
  have hnoRef : ((Emitter.ofDomain domain).demandSchema t header demand).member? "$ref" = none :=
    member?_ref_demandSchema
  have htext : Draft.draft7.idText?
      ((Emitter.ofDomain domain).demandSchema t header demand)
        = some ((Emitter.ofDomain domain).uri t) := by
    unfold Draft.idText?
    dsimp only
    rw [if_neg (by decide), hnoRef, if_neg (by simp), if_neg (by decide), member?_id_demandSchema,
      Option.bind_some, Json.string?, Option.filter_some, hweb.isLocal_uri h.name]
    rfl
  unfold Draft.ownAddress?
  rw [htext, Option.map_some, hweb.trimNumberSigns_uri h.name]

/-- The only schemas inside a document are those of its properties, and the one that nothing
satisfies. -/
theorem mem_subschemas_demandSchema {header : Header} {demand : Demand}
    (hwellFormed : demand.WellFormed) {x : Json} :
    x ∈ Draft.draft7.subschemas (e.demandSchema t header demand) ↔
      ∃ system properties required, demand = .record system properties required
        ∧ (x = .bool false ∨ ∃ p ∈ properties, x = e.propertySchema system p) := by
  constructor
  · intro hx
    obtain ⟨m, hm, hx⟩ := List.mem_flatMap.1 hx
    have hnone : Draft.draft7.holding? m.1 ≠ none := by
      intro hnone
      unfold Draft.schemasOf at hx
      rw [hnone] at hx
      cases hx
    -- The members of the header hold no schemas, and those of the demand only in a record.
    rcases List.mem_append.1 hm with hm | hm
    · have hheader : ∀ k ∈ ["$schema", "$id", "title", "description", "deprecated", "examples"],
          Draft.draft7.holding? k = none := by decide
      exact absurd (hheader _ (fst_mem_of_mem_headerMembers hm)) hnone
    · rcases mem_demandMembers hm with hmem | ⟨system, properties, required, rfl, rfl | rfl⟩
      · have hatom : ∀ k ∈ atomKeywords, Draft.draft7.holding? k = none := by decide
        exact absurd (hatom _ hmem) hnone
      · refine ⟨system, properties, required, rfl, .inl ?_⟩
        exact List.mem_singleton.1 (show x ∈ [Json.bool false] from hx)
      · rw [Json.foldl_put _ _ properties [] (by simpa [Demand.WellFormed] using hwellFormed),
          List.nil_append] at hx
        obtain ⟨y, hy, rfl⟩ := List.mem_map.1 (show x ∈ List.map Prod.snd _ from hx)
        obtain ⟨p, hp, rfl⟩ := List.mem_map.1 hy
        exact ⟨system, properties, required, rfl, .inr ⟨p, hp, rfl⟩⟩
  · rintro ⟨system, properties, required, rfl, hx⟩
    have hnodup : (properties.map (·.name)).Nodup := hwellFormed
    unfold demandSchema
    rw [demandMembers_record hnodup]
    rcases hx with rfl | ⟨p, hp, rfl⟩
    · refine List.mem_flatMap.2
        ⟨("additionalProperties", .bool false), ?_, List.mem_singleton.2 rfl⟩
      exact List.mem_append_right _ (.tail _ (.head _))
    · refine List.mem_flatMap.2 ⟨("properties", .object (properties.map fun p =>
        (p.name, e.propertySchema system p))), ?_, ?_⟩
      · exact List.mem_append_right _ (.tail _ (.tail _ (.head _)))
      · exact List.mem_map.2 ⟨_, List.mem_map_of_mem hp, rfl⟩

/-- The schemas inside a document have no names and refer to nothing but types. -/
theorem plain_of_mem_subschemas (h : e.Describes meaning t schema) {x : Json}
    (hx : x ∈ Draft.draft7.subschemas schema) : Plain e x := by
  obtain ⟨header, demand, -, hwellFormed, htargets, rfl⟩ := h.demand
  obtain ⟨system, properties, required, rfl, rfl | ⟨p, hp, rfl⟩⟩ :=
    (mem_subschemas_demandSchema hwellFormed).1 hx
  · exact .boolean false
  · exact .propertySchema (htargets _ (List.mem_map.2 ⟨p, hp, rfl⟩))

end Emitter.Describes

end TypeCatalog
