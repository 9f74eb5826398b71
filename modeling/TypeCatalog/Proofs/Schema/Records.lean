import TypeCatalog.Proofs.Definition.Defaults
import TypeCatalog.Proofs.Definition.Soundness
import TypeCatalog.Proofs.Schema.Places
import TypeCatalog.Proofs.TypeMap.RecordNodes

/-!
# What the schemas of a record ask for

The schema of a record, or of one of its variants, allows the properties that it names and no
others, and requires some of them. If it required a property that it does not name, no value would
be valid. What is named and what is required comes from several lists, with the names in any order
and more than once: the properties with their flags, the required names of the record, and for a
variant what it includes or excludes and what it requires itself.

`emit_record` says that the schemas of a record without violations hold together. What they require
is among what they allow, nothing is named twice, and all of it stands in the order of declaration.
-/

set_option autoImplicit false

namespace TypeCatalog

/-! ## Schemas -/

/-- Whether a schema is one for objects that allows the properties of some names and requires
others. The required ones are among those allowed, and in their order. -/
structure Json.AsksForProperties (schema : Json) (allowed asked : List String) : Prop where
  isObject : schema.member? "type" = some (.string "object")
  properties : ∃ ps, schema.member? "properties" = some (.object ps) ∧ ps.map Prod.fst = allowed
  closed : schema.member? "additionalProperties" = some (.bool false)
  required : schema.member? "required" = if asked = [] then none else some (.ofStrings asked)
  inOrder : asked.Sublist allowed
  distinct : allowed.Nodup ∧ asked.Nodup

/-- The document of a record is such a schema. -/
theorem Emitter.asksForProperties_demandSchema (e : Emitter) {t system : String} {header : Header}
    {ps : List Property} {required : List String} (hnodup : (ps.map (·.name)).Nodup)
    (hrequired : required.Sublist (ps.map (·.name))) :
    (e.demandSchema t header (.record system ps required)).AsksForProperties
      (ps.map (·.name)) required := by
  have hmember {name : String} (hname : name ∈
      ["type", "additionalProperties", "properties", "required"]) :
      (e.demandSchema t header (.record system ps required)).member? name
        = (("type", Json.string "object") :: ("additionalProperties", .bool false)
          :: ("properties", .object (ps.map fun p => (p.name, e.propertySchema system p)))
          :: requiredMembers required).lookup name := by
    refine Builder.member?_demandSchema_record e hnodup name ?_
    simp only [List.mem_cons, List.not_mem_nil, or_false] at hname
    rcases hname with rfl | rfl | rfl | rfl <;> decide
  refine ⟨hmember (by simp), ⟨_, hmember (by simp), ?_⟩, hmember (by simp), ?_, hrequired, hnodup,
    hnodup.sublist hrequired⟩
  · rw [List.map_map]
    rfl
  · rw [hmember (by simp)]
    cases required <;> rfl

/-! ## Names -/

namespace RecordBody

variable (r : RecordBody) (w : Variant)

/-- What a record requires stands in the order of its properties. -/
theorem requiredNames_sublist : r.requiredNames.Sublist (r.properties.map (·.name)) :=
  List.filter_sublist.map _

/-- What a variant selects stands in the order of the properties. -/
theorem selected_sublist : ((r.selected w).map (·.name)).Sublist (r.properties.map (·.name)) :=
  List.filter_sublist.map _

/-- What a variant requires is among what it selects, in that order. -/
theorem requiredBy_sublist : (r.requiredBy w).Sublist ((r.selected w).map (·.name)) :=
  List.filter_sublist.map _

/-- The names of the selected properties are the declared names that the variant selects. -/
theorem mem_map_selected {name : String} :
    name ∈ (r.selected w).map (·.name)
      ↔ name ∈ r.properties.map (·.name) ∧ w.selects name = true := by
  simp only [selected, List.mem_map, List.mem_filter]
  constructor
  · rintro ⟨p, ⟨hp, hselects⟩, rfl⟩
    exact ⟨⟨p, hp, rfl⟩, hselects⟩
  · rintro ⟨⟨p, hp, rfl⟩, hselects⟩
    exact ⟨p, ⟨hp, hselects⟩, rfl⟩

/-- A variant requires what its own list names, or else the record, as far as it is selected. -/
theorem mem_requiredBy {name : String} :
    name ∈ r.requiredBy w
      ↔ name ∈ (r.selected w).map (·.name) ∧ name ∈ w.required.getD r.requiredNames := by
  simp only [requiredBy, List.mem_map, List.mem_filter, List.contains_iff_mem]
  constructor
  · rintro ⟨p, ⟨hp, hname⟩, rfl⟩
    exact ⟨⟨p, hp, rfl⟩, hname⟩
  · rintro ⟨⟨p, hp, rfl⟩, hname⟩
    exact ⟨p, ⟨hp, hname⟩, rfl⟩

variable {r w}

/-- A name is required when the property of the name is flagged, or when the list gives it. Every
name of the list is that of a property. -/
theorem Sound.mem_requiredNames (hr : r.Sound) {name : String} :
    name ∈ r.requiredNames ↔ (∃ p ∈ r.properties, p.name = name ∧ p.isRequired = some true)
      ∨ name ∈ r.required.getD [] := by
  simp only [requiredNames, requires, List.mem_map, List.mem_filter, Bool.or_eq_true,
    List.contains_iff_mem, Property.flagged, Option.getD_eq_iff]
  constructor
  · rintro ⟨p, ⟨hp, hflag | hlist⟩, rfl⟩
    · exact .inl ⟨p, hp, rfl, by simpa using hflag⟩
    · exact .inr hlist
  · rintro (⟨p, hp, rfl, hflag⟩ | hlist)
    · exact ⟨p, ⟨hp, .inl (.inl hflag)⟩, rfl⟩
    · -- A listed name counts only with a property of the name, which soundness provides.
      obtain ⟨names, hnames, hname⟩ : ∃ names ∈ r.required, name ∈ names := by
        cases hrequired : r.required with
        | none =>
            rw [hrequired] at hlist
            cases hlist
        | some names =>
            rw [hrequired] at hlist
            exact ⟨names, rfl, hlist⟩
      obtain ⟨p, hp, rfl⟩ := List.mem_map.1 (hr.required names hnames name hname)
      exact ⟨p, ⟨hp, .inr hlist⟩, rfl⟩

/-- A variant without violations selects what it includes, or what it does not exclude, and has one
of the two lists only. -/
theorem Sound.selected_cases (hr : r.Sound) (hw : w ∈ r.variantList) :
    (∃ included, w.includeProperties = some included ∧ w.excludeProperties = none
      ∧ ∀ name, name ∈ (r.selected w).map (·.name) ↔ name ∈ included)
    ∨ ∃ excluded, w.includeProperties = none ∧ w.excludeProperties = some excluded
      ∧ ∀ name, name ∈ (r.selected w).map (·.name)
        ↔ name ∈ r.properties.map (·.name) ∧ name ∉ excluded := by
  have hlisted := hr.listed w hw
  have hselection := hr.selection w hw
  -- The check refuses a variant with both lists or with none.
  cases hincluded : w.includeProperties with
  | some included =>
      cases hexcluded : w.excludeProperties with
      | some excluded =>
          rw [hincluded, hexcluded] at hselection
          exact absurd rfl hselection
      | none =>
          refine .inl ⟨included, rfl, rfl, fun name => ?_⟩
          rw [mem_map_selected, Variant.selects, hincluded]
          dsimp only
          rw [List.contains_iff_mem]
          refine and_iff_right_of_imp ?_
          exact hlisted _ (by simp) included hincluded name
  | none =>
      cases hexcluded : w.excludeProperties with
      | none =>
          rw [hincluded, hexcluded] at hselection
          exact absurd rfl hselection
      | some excluded =>
          refine .inr ⟨excluded, rfl, rfl, fun name => ?_⟩
          rw [mem_map_selected, Variant.selects, hincluded, hexcluded]
          simp

end RecordBody

/-! ## Documents -/

namespace Emitter

/-- The schemas of a record that breaks no rule and refers to known types only. The record has its
documents, with its defaults or without. The schema of the record allows the declared properties and
requires those that are flagged or listed. That of a variant allows what the variant includes or
does not exclude, and requires of it what the variant lists itself, or else the record. -/
theorem emit_record {v : Json} {d : Definition} {r : RecordBody} (h : Shape.violations v = [])
    (hd : Definition.decode v = .ok d) (hbody : d.body = .record r) (e : Emitter)
    (known : KnownTypes)
    (hknown : ∀ p ∈ r.properties, known.contains (propertyTarget d.header.system p) = true) :
    ∃ emitted, e.emit known d = .ok emitted ∧ e.emit known d.withDefaults = .ok emitted
      ∧ ∃ required,
        emitted.document.schema.AsksForProperties (r.properties.map (·.name)) required
        ∧ (∀ name, name ∈ required ↔
            (∃ p ∈ r.properties, p.name = name ∧ p.isRequired = some true)
              ∨ name ∈ r.required.getD [])
        ∧ List.Forall₂ (fun w document => document.typeName = d.variantTypeName w
            ∧ ∃ allowed own, document.schema.AsksForProperties allowed own
              ∧ allowed.Sublist (r.properties.map (·.name))
              ∧ ((∃ included, w.includeProperties = some included ∧ w.excludeProperties = none
                  ∧ ∀ name, name ∈ allowed ↔ name ∈ included)
                ∨ ∃ excluded, w.includeProperties = none ∧ w.excludeProperties = some excluded
                  ∧ ∀ name, name ∈ allowed
                    ↔ name ∈ r.properties.map (·.name) ∧ name ∉ excluded)
              ∧ ∀ name, name ∈ own ↔ name ∈ allowed ∧ name ∈ w.required.getD required)
          r.variantList emitted.variants := by
  -- The pass found the names distinct and each list among them.
  have hsound : r.Sound := by
    have hall := (Shape.sound_of_decode h hd).body
    rw [hbody] at hall
    exact hall
  have hnil : e.unresolvedReferences known d = [] := by
    unfold unresolvedReferences
    rw [hbody, List.filterMap_eq_nil_iff]
    intro entry hentry
    exact if_pos (hknown entry.1 (List.fst_mem_of_mem_zipIdx hentry))
  have hvariants : e.variantDocuments d = r.variantList.map (e.variantDocument d r) := by
    unfold variantDocuments
    rw [hbody]
  have hdocument : (e.typeDocument d).schema = e.demandSchema d.typeName d.header
      (.record d.header.system r.properties r.requiredNames) := by
    unfold typeDocument
    dsimp only
    rw [hbody]
    rfl
  refine ⟨⟨e.typeDocument d, e.variantDocuments d⟩, (e.emit_eq_ok_iff known).2 ⟨hnil, rfl⟩,
    (e.emit_eq_ok_iff known).2 ⟨?_, ?_⟩, r.requiredNames, ?_, fun name => hsound.mem_requiredNames,
    ?_⟩
  · -- Defaults change neither what is asked for nor what is written.
    rw [unresolvedReferences_withDefaults, hnil]
  · rw [typeDocument_withDefaults, variantDocuments_withDefaults]
  · dsimp only
    rw [hdocument]
    exact e.asksForProperties_demandSchema hsound.properties r.requiredNames_sublist
  · dsimp only
    rw [hvariants, List.forall₂_map_right_iff, List.forall₂_same]
    intro w hw
    refine ⟨rfl, (r.selected w).map (·.name), r.requiredBy w, ?_, r.selected_sublist w,
      hsound.selected_cases hw, fun name => r.mem_requiredBy w⟩
    exact e.asksForProperties_demandSchema
      (hsound.properties.sublist (r.selected_sublist w)) (r.requiredBy_sublist w)

/-- A record with a flagged property and a required name that is given twice. One variant includes
two names in reverse; the other one excludes a name and requires it. -/
def teamRecord : RecordBody where
  properties :=
    [⟨"lead", none, "label", none, some true⟩, ⟨"office", none, "label", none, none⟩,
      ⟨"motto", none, "label", none, none⟩]
  required := some ["office", "office"]
  variants := some
    [⟨"short", none, none, some ["office", "lead"], none⟩,
      ⟨"open", none, some ["motto", "lead"], none, some ["lead"]⟩]
  validCases := []
  invalidCases := none

def teamDefinition : Definition :=
  ⟨⟨"test", "team", none, none, none, none, none, none⟩, .record teamRecord⟩

/-- A team requires an office but no motto. The other variant requires the motto but not the lead,
although it names both. -/
theorem emit_teamDefinition :
    Shape.violations teamDefinition.toJson = []
      ∧ Definition.decode teamDefinition.toJson = .ok teamDefinition
      ∧ ∃ emitted, (ofDomain "https://a.org").emit ⟨[("test/label", .string)]⟩ teamDefinition
          = .ok emitted
        ∧ (∃ asked, emitted.document.schema.AsksForProperties ["lead", "office", "motto"] asked
            ∧ "office" ∈ asked ∧ "motto" ∉ asked)
        ∧ ∃ short other, emitted.variants = [short, other]
          ∧ ∃ allowed asked, other.schema.AsksForProperties allowed asked
            ∧ "motto" ∈ asked ∧ "lead" ∉ asked := by
  have hviolations : Shape.violations teamDefinition.toJson = [] := by decide +kernel
  have hdecode : Definition.decode teamDefinition.toJson = .ok teamDefinition := rfl
  obtain ⟨emitted, hemit, -, asked, hschema, hasked, hvariants⟩ :=
    emit_record hviolations hdecode rfl (ofDomain "https://a.org") ⟨[("test/label", .string)]⟩
      (by decide)
  refine ⟨hviolations, hdecode, emitted, hemit,
    ⟨asked, hschema, (hasked _).2 (by decide), mt (hasked _).1 (by decide)⟩, ?_⟩
  obtain ⟨short, rest, -, hrest, hemitted⟩ := List.forall₂_cons_left_iff.1 hvariants
  obtain ⟨other, rest, ⟨-, allowed, own, hother, -, hallowed, hown⟩, hnone, rfl⟩ :=
    List.forall₂_cons_left_iff.1 hrest
  obtain rfl := List.forall₂_nil_left_iff.1 hnone
  rcases hallowed with ⟨_, hincluded, -⟩ | ⟨excluded, -, hexcluded, hallowed⟩
  · cases hincluded
  · obtain rfl : ["lead"] = excluded := Option.some.inj hexcluded
    refine ⟨short, other, hemitted, allowed, own, hother, ?_, ?_⟩
    · exact (hown _).2 ⟨(hallowed _).2 (by decide), .head _⟩
    · exact fun hlead => absurd ((hallowed _).1 ((hown _).1 hlead).1) (by decide)

end Emitter

end TypeCatalog
