import TypeCatalog.Proofs.Catalog.Documents
import TypeCatalog.Proofs.Definition.Defaults
import TypeCatalog.Proofs.TypeMap.Circles

/-!
# What success means

A batch is successful when its report holds no error. The report is filled by stages that each look
only at what the stages before have let through, so that is not obviously the same as everything
being in order.

`Catalog.IsSound` says of a store what a reader would want to hold, without the stages: every raw
definition keeps the rules, names are different, references lead to declared types, every document
has a validator, declared values are valid or not as they say, and no reference of the type map goes
in a circle. The main statement, `isSuccessful_iff_isSound`, says that success is exactly that.

Each stage has a lemma which says when it reports nothing. All that a stage reports is an error, but
for the warnings of the first one.

`Catalog.isSuccessful` asks the report for errors. The stages are `readAll`, `Emitter.emit` with
`unresolvedReferences`, `Engine.compile`, `TypeValidator.verify` with `verifyItemData` for the data
of enum items, and `TypeMap.cycles`. `isSuccessful_iff_stages` splits the report, and one lemma for
each stage turns it into a clause of `IsSound`.
-/

set_option autoImplicit false

namespace TypeCatalog

open Result Shape

/-! ## What a store declares -/

/-- The definitions that a store declares, as they are written. -/
def Store.Declares (s : Store) (d : Definition) : Prop :=
  ∃ raw ∈ s.entries, Definition.decode raw.value = .ok d

/-- Every type that a definition refers to is declared, and the data type of an enum is declared
as a record. -/
def Definition.Resolves (e : Emitter) (declared : Definition → Prop) (d : Definition) : Prop :=
  match d.body with
  | .record r => ∀ p ∈ r.properties, ∃ t, declared t
      ∧ t.typeName = Emitter.propertyTarget d.header.system p
  | .enum b => ∀ reference, b.dataType = some reference → ∃ t, declared t
      ∧ t.kind = .record ∧ t.typeName = Name.resolve none d.header.system reference
  | .object b => ∀ path reference, (path, reference) ∈ Fragment.references "jsonSchema" b.schema →
      ∃ t, declared t ∧ t.typeName = e.fragmentTarget d.header.system reference
  | _ => True

namespace Definition

/-! ## Defaults and what is declared -/

variable (d : Definition)

/-- Defaults leave the body of an enum as it is. -/
theorem withDefaults_body_eq_enum {b : EnumBody} :
    d.withDefaults.body = .enum b ↔ d.body = .enum b := by
  obtain ⟨header, body⟩ := d
  cases body with
  | enum _ => exact Iff.rfl
  | _ => exact iff_of_false nofun nofun

/-- Defaults add no references, neither to a definition nor to those that it may refer to. -/
theorem resolves_withDefaults {e : Emitter} {declared declared' : Definition → Prop}
    (h : ∀ t, declared' t ↔ ∃ u, declared u ∧ t = u.withDefaults) :
    d.withDefaults.Resolves e declared' ↔ d.Resolves e declared := by
  have hname (name : String) : (∃ t, declared' t ∧ t.typeName = name)
      ↔ ∃ u, declared u ∧ u.typeName = name := by
    constructor
    · rintro ⟨t, ht, hname⟩
      obtain ⟨u, hu, rfl⟩ := (h t).1 ht
      exact ⟨u, hu, hname⟩
    · rintro ⟨u, hu, hname⟩
      exact ⟨u.withDefaults, (h _).2 ⟨u, hu, rfl⟩, hname⟩
  have hrecord (name : String) : (∃ t, declared' t ∧ t.kind = .record ∧ t.typeName = name)
      ↔ ∃ u, declared u ∧ u.kind = .record ∧ u.typeName = name := by
    constructor
    · rintro ⟨t, ht, hkind, hname⟩
      obtain ⟨u, hu, rfl⟩ := (h t).1 ht
      exact ⟨u, hu, by rwa [withDefaults_kind] at hkind, hname⟩
    · rintro ⟨u, hu, hkind, hname⟩
      exact ⟨u.withDefaults, (h _).2 ⟨u, hu, rfl⟩, by rwa [withDefaults_kind], hname⟩
  obtain ⟨header, body⟩ := d
  cases body with
  | record r =>
      show (∀ p ∈ r.properties.map Property.withDefaults, _) ↔ _
      rw [List.forall_mem_map]
      exact forall₂_congr fun p _ => hname _
  | enum b => exact forall₂_congr fun reference _ => hrecord _
  | object b => exact forall₃_congr fun path reference _ => hname _
  | _ => exact Iff.rfl

end Definition

/-! ## References -/

/-- A definition has no unresolved references among others exactly when it resolves among them. -/
theorem Emitter.unresolvedReferences_eq_nil_iff {e : Emitter} {ds : List Definition}
    (hnodup : (ds.map (·.typeName)).Nodup) {d : Definition} :
    e.unresolvedReferences (.ofDefinitions ds) d = [] ↔ d.Resolves e (· ∈ ds) := by
  have hknown (name : String) : (KnownTypes.ofDefinitions ds).contains name = true
      ↔ ∃ t, t ∈ ds ∧ t.typeName = name := KnownTypes.contains_ofDefinitions hnodup
  unfold unresolvedReferences Definition.Resolves
  -- A record refers by the types of its properties, an enum by its data type, which has to be a
  -- record, and an object by the references of its schema.
  cases d.body with
  | record r =>
      dsimp only
      rw [List.filterMap_eq_nil_iff]
      constructor
      · intro h p hp
        obtain ⟨i, hi, rfl⟩ := List.mem_iff_getElem.1 hp
        have hp := h (r.properties[i], i)
          (List.mk_mem_zipIdx_iff_getElem?.2 (List.getElem?_eq_getElem hi))
        dsimp only at hp
        split at hp
        · next hcontains => exact (hknown _).1 hcontains
        · cases hp
      · rintro h ⟨p, i⟩ hp
        have hmem : p ∈ r.properties :=
          List.mem_of_getElem? (List.mk_mem_zipIdx_iff_getElem?.1 hp)
        exact if_pos ((hknown _).2 (h p hmem))
  | enum b =>
      dsimp only
      cases b.dataType with
      | none => exact iff_of_true rfl nofun
      | some reference =>
          simp only [Option.some.injEq, forall_eq']
          split
          · next hkind =>
              obtain ⟨t, ht, hname, hkind⟩ := (KnownTypes.kind?_ofDefinitions hnodup).1 hkind
              exact iff_of_true rfl ⟨t, ht, hkind, hname⟩
          · next hkind =>
              refine iff_of_false nofun ?_
              rintro ⟨t, ht, htkind, htname⟩
              exact hkind ((KnownTypes.kind?_ofDefinitions hnodup).2 ⟨t, ht, htname, htkind⟩)
  | object b =>
      dsimp only
      rw [List.filterMap_eq_nil_iff]
      constructor
      · intro h path reference hmem
        have hp := h (path, reference) hmem
        dsimp only at hp
        split at hp
        · next hcontains => exact (hknown _).1 hcontains
        · cases hp
      · rintro h ⟨path, reference⟩ hmem
        exact if_pos ((hknown _).2 (h path reference hmem))
  | _ => exact iff_of_true rfl trivial

/-- The rules that say of a type or a data type that it is not known. -/
def Emitter.referenceRules : List Rule := [.unknownPropertyType, .unknownDataType]

/-- What is reported of references is of one of the two rules for them. -/
theorem Emitter.rule_mem_of_mem_unresolvedReferences {e : Emitter} {known : KnownTypes}
    {d : Definition} {v : Violation} (h : v ∈ e.unresolvedReferences known d) :
    v.rule ∈ referenceRules := by
  unfold unresolvedReferences at h
  cases hbody : d.body with
  | record r =>
      rw [hbody] at h
      obtain ⟨⟨p, i⟩, -, h⟩ := List.mem_filterMap.1 h
      dsimp only at h
      split at h
      · cases h
      · cases h
        exact List.mem_cons_self
  | enum b =>
      rw [hbody] at h
      dsimp only at h
      split at h
      · cases h
      · split at h
        · cases h
        · rw [List.mem_singleton.1 h]
          exact .tail _ (.head _)
  | object b =>
      rw [hbody] at h
      obtain ⟨⟨path, reference⟩, -, h⟩ := List.mem_filterMap.1 h
      dsimp only at h
      split at h
      · cases h
      · cases h
        exact List.mem_cons_self
  | _ =>
      rw [hbody] at h
      cases h

/-- And it is an error. -/
theorem Emitter.isError_of_mem_unresolvedReferences {e : Emitter} {known : KnownTypes}
    {d : Definition} {v : Violation} (h : v ∈ e.unresolvedReferences known d) :
    v.rule.isDocumentation = false := by
  have hall : ∀ rule ∈ referenceRules, rule.isDocumentation = false := by decide
  exact hall _ (rule_mem_of_mem_unresolvedReferences h)

/-- No reference is reported exactly when all references of all definitions are known. -/
theorem unresolvedOf_noErrors_iff {e : Emitter} {ds : List Definition}
    (hnodup : (ds.map (·.typeName)).Nodup) :
    (∀ x ∈ unresolvedOf (emitAll e ds), ¬ x.IsError) ↔ ∀ d ∈ ds, d.Resolves e (· ∈ ds) := by
  unfold unresolvedOf emitAll
  dsimp only
  rw [List.flatMap_map]
  constructor
  · intro h d hd
    rw [← Emitter.unresolvedReferences_eq_nil_iff hnodup]
    refine List.eq_nil_iff_forall_not_mem.2 fun v hv => ?_
    have hrule := Emitter.isError_of_mem_unresolvedReferences hv
    refine h (v.toDiagnostic d.typeName) ?_ (Diagnostic.isError_of_not_isDocumentation hrule _)
    refine List.mem_flatMap.2 ⟨d, hd, ?_⟩
    rw [Emitter.emit_eq_error _ _ (List.ne_nil_of_mem hv)]
    exact List.mem_map.2 ⟨v, hv, rfl⟩
  · intro h x hx
    obtain ⟨d, hd, hx⟩ := List.mem_flatMap.1 hx
    unfold Emitter.emit at hx
    rw [(Emitter.unresolvedReferences_eq_nil_iff hnodup).2 (h d hd)] at hx
    cases hx

/-! ## Validators -/

/-- No schema problem is reported exactly when every document has a validator. -/
theorem schemaProblems_noErrors_iff {e : Engine} {documents : List Document} :
    (∀ x ∈ schemaProblems (compileAll e documents), ¬ x.IsError)
      ↔ ∀ document ∈ documents, ∃ t, e.compile document.typeName = .ok t := by
  unfold schemaProblems compileAll
  constructor
  · intro h document hdocument
    cases hcompile : e.compile document.typeName with
    | ok t => exact ⟨t, rfl⟩
    | error fault =>
        refine absurd rfl (h (schemaProblem document.typeName fault) ?_)
        refine List.mem_filterMap.2 ⟨_, List.mem_map.2 ⟨document, hdocument, rfl⟩, ?_⟩
        dsimp only
        rw [hcompile]
  · intro h x hx
    obtain ⟨attempt, hattempt, hx⟩ := List.mem_filterMap.1 hx
    obtain ⟨document, hdocument, rfl⟩ := List.mem_map.1 hattempt
    obtain ⟨t, ht⟩ := h document hdocument
    dsimp only at hx
    rw [ht] at hx
    cases hx

/-! ## Declared values -/

/-- Whether a diagnostic is one of the declared values of a definition. -/
structure Diagnostic.IsOfValues (x : Diagnostic) (d : Definition) : Prop where
  typeName : x.typeName = d.typeName
  kind : x.kind ∈ [.exampleValidation, .testCaseValidation, .testCaseInvalidation,
    .enumItemDataValidation]

/-- What is reported of declared values is an error. -/
theorem Diagnostic.IsOfValues.isError {x : Diagnostic} {d : Definition} (h : x.IsOfValues d) :
    x.IsError := by
  have hall : ∀ k ∈ [Kind.exampleValidation, .testCaseValidation, .testCaseInvalidation,
      .enumItemDataValidation], k.severity = .error := by decide
  exact hall _ h.kind

namespace TypeValidator

variable {t : TypeValidator}

/-- A check of every item of a list, each with its index, reports nothing exactly when every item
passes. -/
theorem filterMap_zipIdx_eq_nil {α β : Type} {xs : List α} {f : α × Nat → Option β} {P : α → Prop}
    (h : ∀ x i, f (x, i) = none ↔ P x) : xs.zipIdx.filterMap f = [] ↔ ∀ x ∈ xs, P x := by
  rw [List.filterMap_eq_nil_iff]
  constructor
  · intro hall x hx
    obtain ⟨i, hi, rfl⟩ := List.mem_iff_getElem.1 hx
    exact (h _ _).1 (hall _ (List.mk_mem_zipIdx_iff_getElem?.2 (List.getElem?_eq_getElem hi)))
  · rintro hall ⟨x, i⟩ hx
    exact (h x i).2 (hall x (List.mem_of_getElem? (List.mk_mem_zipIdx_iff_getElem?.1 hx)))

/-- No example is rejected when all of them are valid. -/
theorem rejected_eq_nil {typeName label : String} {kind : Kind} {cases : List Example} :
    t.rejected typeName kind label cases = [] ↔ ∀ c ∈ cases, (t.validate c.value).isValid = true :=
  filterMap_zipIdx_eq_nil fun c i => by
    dsimp only
    cases (t.validate c.value).isValid <;> simp

/-- No example is accepted when all of them are invalid. -/
theorem accepted_eq_nil {typeName : String} {cases : List Example} :
    t.accepted typeName cases = [] ↔ ∀ c ∈ cases, (t.validate c.value).isValid = false :=
  filterMap_zipIdx_eq_nil fun c i => by
    show (if (t.validate c.value).isValid then some _ else none) = none ↔ _
    cases (t.validate c.value).isValid <;> simp

/-- Nothing is reported of the declared values exactly when they are valid or not as they say. -/
theorem verify_eq_nil {d : Definition} :
    t.verify d = [] ↔ (∀ c ∈ d.examples ++ d.validCases, (t.validate c.value).isValid = true)
      ∧ ∀ c ∈ d.invalidCases, (t.validate c.value).isValid = false := by
  unfold verify
  rw [List.append_eq_nil_iff, List.append_eq_nil_iff, rejected_eq_nil, rejected_eq_nil,
    accepted_eq_nil, List.forall_mem_append]

/-- The data of enum items is in order when it is valid for the data type. -/
theorem verifyItemData_eq_nil {d : Definition} :
    t.verifyItemData d = [] ↔ ∀ b, d.body = .enum b →
      ∀ item ∈ b.items, (t.validate (item.data.getD .null)).isValid = true := by
  unfold verifyItemData
  cases d.body with
  | enum b =>
      refine Iff.trans ?_ ⟨fun h c hc => by cases hc; exact h, fun h => h b rfl⟩
      exact filterMap_zipIdx_eq_nil fun item i => by
        dsimp only
        cases (t.validate (item.data.getD .null)).isValid <;> simp
  | _ => exact iff_of_true rfl nofun

/-- What the check of declared values reports is about them. -/
theorem isOfValues_of_mem_verify {d : Definition} {x : Diagnostic} (h : x ∈ t.verify d) :
    x.IsOfValues d := by
  unfold verify rejected accepted at h
  rw [List.mem_append, List.mem_append] at h
  rcases h with (h | h) | h <;> obtain ⟨⟨c, i⟩, -, h⟩ := List.mem_filterMap.1 h <;>
    dsimp only at h <;> split at h <;> cases h <;> exact ⟨rfl, by simp [Diagnostic.ofKind]⟩

/-- So is what the check of the data of items reports. -/
theorem isOfValues_of_mem_verifyItemData {d : Definition} {x : Diagnostic}
    (h : x ∈ t.verifyItemData d) : x.IsOfValues d := by
  unfold verifyItemData at h
  cases hbody : d.body with
  | enum b =>
      rw [hbody] at h
      obtain ⟨⟨item, i⟩, -, h⟩ := List.mem_filterMap.1 h
      dsimp only at h
      split at h
      · cases h
      · cases h
        exact ⟨rfl, by simp [Diagnostic.ofKind]⟩
  | _ =>
      rw [hbody] at h
      cases h

/-- Without a validator of the data type nothing is reported of the data. -/
theorem isOfValues_of_mem_getD {w : Option TypeValidator} {d : Definition} {x : Diagnostic}
    (h : x ∈ (w.map fun t => t.verifyItemData d).getD []) : x.IsOfValues d := by
  cases w with
  | none => cases h
  | some t => exact isOfValues_of_mem_verifyItemData h

end TypeValidator

/-- What is to hold of the values that a definition declares: they are valid or not as they say, and
the data of an enum's items is valid for the data type of the enum. -/
structure ValuesFit (validators : List (String × TypeValidator)) (d : Definition) : Prop where
  valid : ∀ e ∈ d.examples ++ d.validCases,
    (validators.lookup d.typeName).map (fun t => (t.validate e.value).isValid) = some true
  invalid : ∀ e ∈ d.invalidCases,
    (validators.lookup d.typeName).map (fun t => (t.validate e.value).isValid) = some false
  itemData : ∀ b reference, d.body = .enum b → b.dataType = some reference → ∀ item ∈ b.items,
    (validators.lookup (Name.resolve none d.header.system reference)).map
      (fun t => (t.validate (item.data.getD .null)).isValid) = some true

/-- So all that is reported of values is about them. -/
theorem isOfValues_of_mem_valueProblems {validators : List (String × TypeValidator)}
    {d : Definition} {x : Diagnostic} (h : x ∈ valueProblems validators d) : x.IsOfValues d := by
  unfold valueProblems at h
  split at h
  · cases h
  · next t _ =>
      rcases List.mem_append.1 h with h | h
      · exact TypeValidator.isOfValues_of_mem_verify h
      · exact TypeValidator.isOfValues_of_mem_getD h

/-- What is checked of the declared values of a definition that has a validator: the values
themselves, and the data of its items where its data type has a validator, too. -/
theorem valueProblems_eq {validators : List (String × TypeValidator)} {d : Definition}
    {t : TypeValidator} (ht : validators.lookup d.typeName = some t) :
    valueProblems validators d = t.verify d ++
      match d.body with
      | .enum ⟨_, some reference⟩ =>
        ((validators.lookup (Name.resolve none d.header.system reference)).map
          fun w : TypeValidator => w.verifyItemData d).getD []
      | _ => [] := by
  unfold valueProblems
  rw [ht]
  obtain ⟨header, body⟩ := d
  cases body with
  | enum b =>
      obtain ⟨items, dataType⟩ := b
      cases dataType <;> rfl
  | _ => rfl

/-- Where a definition and its data type have validators, nothing is reported of its declared values
exactly when they fit. -/
theorem valueProblems_eq_nil_iff {validators : List (String × TypeValidator)} {d : Definition}
    (hown : ∃ t, validators.lookup d.typeName = some t)
    (hdata : ∀ b reference, d.body = .enum b → b.dataType = some reference →
      ∃ t, validators.lookup (Name.resolve none d.header.system reference) = some t) :
    valueProblems validators d = [] ↔ ValuesFit validators d := by
  obtain ⟨t, ht⟩ := hown
  rw [valueProblems_eq ht, List.append_eq_nil_iff, TypeValidator.verify_eq_nil]
  have hvalues : ValuesFit validators d ↔
      ((∀ e ∈ d.examples ++ d.validCases, (t.validate e.value).isValid = true)
        ∧ ∀ e ∈ d.invalidCases, (t.validate e.value).isValid = false)
      ∧ ∀ b reference, d.body = .enum b → b.dataType = some reference → ∀ item ∈ b.items,
        (validators.lookup (Name.resolve none d.header.system reference)).map
          (fun t => (t.validate (item.data.getD .null)).isValid) = some true := by
    constructor
    · exact fun h => ⟨⟨fun e he => by simpa [ht] using h.valid e he,
        fun e he => by simpa [ht] using h.invalid e he⟩, h.itemData⟩
    · rintro ⟨⟨hvalid, hinvalid⟩, hitem⟩
      exact ⟨fun e he => by rw [ht, Option.map_some, hvalid e he],
        fun e he => by rw [ht, Option.map_some, hinvalid e he], hitem⟩
  rw [hvalues]
  refine and_congr_right fun _ => ?_
  -- The data of items is checked only where an enum has a data type.
  split
  · next items reference hbody =>
      obtain ⟨w, hw⟩ := hdata _ reference hbody rfl
      rw [hw, Option.map_some, Option.getD_some, TypeValidator.verifyItemData_eq_nil]
      constructor
      · intro h b other hb hother item hitem
        rw [hbody] at hb
        cases hb
        cases hother
        rw [hw, Option.map_some, h _ hbody item hitem]
      · intro h b hb item hitem
        have hreference : b.dataType = some reference := by
          rw [hbody] at hb
          cases hb
          rfl
        simpa [hw] using h b reference hb hreference item hitem
  · next hnot =>
      refine iff_of_true rfl fun b reference hb hreference => ?_
      obtain ⟨items, dataType⟩ := b
      cases hreference
      exact absurd hb (hnot items reference)

/-! ## Circles -/

/-- A circle is reported as an error. -/
theorem TypeMap.isError_of_mem_cyclesFrom {m : TypeMap} {reported : List (List String)}
    {names : List String} {x : Diagnostic} (h : x ∈ m.cyclesFrom reported names) : x.IsError := by
  obtain ⟨name, -, c, -, rfl, -⟩ := exists_of_mem_cyclesFrom h
  rfl

/-! ## The batch -/

namespace Catalog

/-- What a batch promises about the store that it was compiled from. -/
structure IsSound (settings : Settings) (formats : List Format) (store : Store) : Prop where
  /-- Every raw definition keeps the rules. -/
  wellFormed : ∀ raw ∈ store.entries, violations raw.value = []
  /-- No two definitions declare the same name. -/
  distinct : (store.entries.map RawDefinition.typeName?).Nodup
  /-- Every reference leads to a declared type. -/
  resolves : ∀ d, store.Declares d → d.Resolves (.ofDomain settings.domain) store.Declares
  /-- Every document, of a type or of a variant, has a validator. -/
  validators : ∀ document ∈ (ofStore settings formats store).documents,
    ∃ t, (ofStore settings formats store).validators.lookup document.typeName = some t
  /-- Examples and valid cases are valid. -/
  valid : ∀ d, store.Declares d → ∀ e ∈ d.examples ++ d.validCases,
    ((ofStore settings formats store).validate? d.header.system d.header.name e.value).map
      (·.isValid) = some true
  /-- Invalid cases are not. -/
  invalid : ∀ d, store.Declares d → ∀ e ∈ d.invalidCases,
    ((ofStore settings formats store).validate? d.header.system d.header.name e.value).map
      (·.isValid) = some false
  /-- The data of an enum's items, `null` where there is none, is valid for the data type. -/
  itemData : ∀ d b reference, store.Declares d → d.body = .enum b →
    b.dataType = some reference → ∀ item ∈ b.items,
      ((ofStore settings formats store).validators.lookup
        (Name.resolve none d.header.system reference)).map
          (fun t => (t.validate (item.data.getD .null)).isValid) = some true
  /-- No reference of the type map goes in a circle. -/
  acyclic : ∀ name ∈ (ofStore settings formats store).typeMap.typeNames,
    ∃ a, (ofStore settings formats store).typeMap.resolve true name 0 = .ok a

variable {settings : Settings} {formats : List Format} {store : Store}

/-- A batch is successful when no stage has found an error. -/
theorem isSuccessful_iff_stages : (ofStore settings formats store).isSuccessful = true ↔
    (∀ x ∈ (readAll settings.documentation [] 0 store.entries).2, ¬ x.IsError)
    ∧ (∀ x ∈ unresolvedOf (emitAll (.ofDomain settings.domain)
        (ofStore settings formats store).definitions), ¬ x.IsError)
    ∧ (∀ x ∈ schemaProblems (compileAll (engineOf settings formats store)
        (ofStore settings formats store).documents), ¬ x.IsError)
    ∧ (∀ d ∈ (ofStore settings formats store).definitions,
        valueProblems (ofStore settings formats store).validators d = [])
    ∧ (ofStore settings formats store).typeMap.cycles = [] := by
  have hvalues : (∀ x ∈ (ofStore settings formats store).definitions.flatMap
        (valueProblems (ofStore settings formats store).validators), ¬ x.IsError)
      ↔ ∀ d ∈ (ofStore settings formats store).definitions,
        valueProblems (ofStore settings formats store).validators d = [] := by
    constructor
    · exact fun h d hd => List.eq_nil_iff_forall_not_mem.2 fun x hx =>
        h x (List.mem_flatMap.2 ⟨d, hd, hx⟩) (isOfValues_of_mem_valueProblems hx).isError
    · intro h x hx
      obtain ⟨d, hd, hx⟩ := List.mem_flatMap.1 hx
      rw [h d hd] at hx
      cases hx
  have hcycles : (∀ x ∈ (ofStore settings formats store).typeMap.cycles, ¬ x.IsError)
      ↔ (ofStore settings formats store).typeMap.cycles = [] :=
    ⟨fun h => List.eq_nil_iff_forall_not_mem.2 fun x hx =>
      h x hx (TypeMap.isError_of_mem_cyclesFrom hx), fun h x hx => by rw [h] at hx; cases hx⟩
  rw [← hvalues, ← hcycles]
  refine (Report.isSuccessful_extend _ _).trans ?_
  rw [Report.isSuccessful_ofList]
  simp only [List.forall_mem_append, and_assoc]
  exact Iff.rfl

/-- Where the store is read without errors, the definitions of the batch are those that the store
declares, with their defaults. -/
theorem mem_definitions_iff (hstore : ∀ raw ∈ store.entries, raw.value.Distinct)
    (hread : ∀ x ∈ (readAll settings.documentation [] 0 store.entries).2, ¬ x.IsError)
    {d : Definition} : d ∈ (ofStore settings formats store).definitions
      ↔ ∃ e, store.Declares e ∧ d = e.withDefaults := by
  rw [definitions_ofStore]
  constructor
  · intro h
    obtain ⟨raw, hraw, -, e, he, heq⟩ := exists_of_mem_readAll h
    exact ⟨e, ⟨raw, hraw, he⟩, heq⟩
  · rintro ⟨e, ⟨raw, hraw, he⟩, rfl⟩
    have hall := readAll_forall₂ hstore hread
    obtain ⟨i, hi, rfl⟩ := List.mem_iff_getElem.1 hraw
    have hlen := hall.length_eq
    have hat := hall.get hi (hlen ▸ hi)
    rw [List.get_eq_getElem, he] at hat
    rw [Except.ok.inj hat]
    exact List.get_mem _ _

/-- Defaults leave the declared values. -/
theorem valuesFit_withDefaults {validators : List (String × TypeValidator)} {d : Definition} :
    ValuesFit validators d.withDefaults ↔ ValuesFit validators d := by
  constructor
  · intro h
    refine ⟨?_, ?_, fun b reference hb => ?_⟩
    · simpa using h.valid
    · simpa using h.invalid
    · exact h.itemData b reference (d.withDefaults_body_eq_enum.2 hb)
  · intro h
    refine ⟨?_, ?_, fun b reference hb => ?_⟩
    · simpa using h.valid
    · simpa using h.invalid
    · exact h.itemData b reference (d.withDefaults_body_eq_enum.1 hb)

/-- Every name of a document is read in the table of validators exactly when a validator can be
built for it. -/
theorem forall_lookup_validators_iff :
    (∀ document ∈ (ofStore settings formats store).documents,
      ∃ t, (engineOf settings formats store).compile document.typeName = .ok t)
    ↔ ∀ document ∈ (ofStore settings formats store).documents,
      ∃ t, (ofStore settings formats store).validators.lookup document.typeName = some t := by
  refine forall₂_congr fun document hdocument => exists_congr fun t => ?_
  rw [lookup_validators]
  exact (and_iff_right ⟨document, hdocument, rfl⟩).symm

/-- Where all references resolve, every definition has a document. -/
theorem typeDocument_mem_documents
    (hresolves : ∀ d ∈ (ofStore settings formats store).definitions,
      d.Resolves (.ofDomain settings.domain) (· ∈ (ofStore settings formats store).definitions))
    {d : Definition} (hd : d ∈ (ofStore settings formats store).definitions) :
    (Emitter.ofDomain settings.domain).typeDocument d
      ∈ (ofStore settings formats store).documents := by
  refine mem_documents.2 ⟨d, mem_resolvedOf.2 ⟨hd, ?_⟩, .head _⟩
  exact (Emitter.unresolvedReferences_eq_nil_iff typeNames_nodup).2 (hresolves d hd)

/-- Where the definitions of a batch are those that the store declares, with their defaults, all
references resolve in the batch exactly when they resolve in the store. -/
theorem forall_resolves_iff
    (hmem : ∀ d, d ∈ (ofStore settings formats store).definitions
      ↔ ∃ e, store.Declares e ∧ d = e.withDefaults) :
    (∀ d ∈ (ofStore settings formats store).definitions,
        d.Resolves (.ofDomain settings.domain) (· ∈ (ofStore settings formats store).definitions))
      ↔ ∀ d, store.Declares d → d.Resolves (.ofDomain settings.domain) store.Declares := by
  constructor
  · exact fun h d hd => (d.resolves_withDefaults hmem).1 (h _ ((hmem _).2 ⟨d, hd, rfl⟩))
  · intro h d hd
    obtain ⟨e, he, rfl⟩ := (hmem d).1 hd
    exact (e.resolves_withDefaults hmem).2 (h e he)

/-- Where all references resolve and all documents have validators, nothing is reported of declared
values exactly when the values of all definitions that the store declares fit. -/
theorem forall_valueProblems_iff
    (hmem : ∀ d, d ∈ (ofStore settings formats store).definitions
      ↔ ∃ e, store.Declares e ∧ d = e.withDefaults)
    (hresolves : ∀ d ∈ (ofStore settings formats store).definitions,
      d.Resolves (.ofDomain settings.domain) (· ∈ (ofStore settings formats store).definitions))
    (hvalidators : ∀ document ∈ (ofStore settings formats store).documents,
      ∃ t, (ofStore settings formats store).validators.lookup document.typeName = some t) :
    (∀ d ∈ (ofStore settings formats store).definitions,
        valueProblems (ofStore settings formats store).validators d = [])
      ↔ ∀ d, store.Declares d → ValuesFit (ofStore settings formats store).validators d := by
  have hfit : ∀ d ∈ (ofStore settings formats store).definitions,
      valueProblems (ofStore settings formats store).validators d = []
        ↔ ValuesFit (ofStore settings formats store).validators d := by
    intro d hd
    refine valueProblems_eq_nil_iff
      (hvalidators _ (typeDocument_mem_documents hresolves hd)) fun b reference hb hr => ?_
    have hd := hresolves d hd
    unfold Definition.Resolves at hd
    rw [hb] at hd
    obtain ⟨t, ht, -, hname⟩ := hd reference hr
    rw [← hname]
    exact hvalidators _ (typeDocument_mem_documents hresolves ht)
  constructor
  · intro h d hd
    have hdefaults := (hmem _).2 ⟨d, hd, rfl⟩
    exact valuesFit_withDefaults.1 ((hfit _ hdefaults).1 (h _ hdefaults))
  · intro h d hd
    obtain ⟨e, he, rfl⟩ := (hmem d).1 hd
    exact (hfit _ hd).2 (valuesFit_withDefaults.2 (h e he))

/-- What a name's validator says of a value is read of the table of validators. -/
theorem validate?_map_isValid (c : Catalog) (system name : String) (v : Json) :
    (c.validate? system name v).map (·.isValid)
      = (c.validators.lookup (Name.qualify system name)).map fun t => (t.validate v).isValid :=
  Option.map_map ..

/-- A batch is successful exactly when everything about the store is in order: no stage lets an
error pass, and none reports more than that. -/
theorem isSuccessful_iff_isSound (settings : Settings) (formats : List Format) (store : Store)
    (hstore : ∀ raw ∈ store.entries, raw.value.Distinct) :
    (ofStore settings formats store).isSuccessful = true ↔ IsSound settings formats store := by
  have hread := @readAll_noErrors_iff settings.documentation [] 0 store.entries hstore
  rw [isSuccessful_iff_stages, unresolvedOf_noErrors_iff typeNames_nodup,
    schemaProblems_noErrors_iff, forall_lookup_validators_iff, TypeMap.cycles_eq_nil_iff]
  constructor
  -- Where no stage has an error, the definitions are those of the store, so what is said of the one
  -- holds of the other.
  · rintro ⟨hnoErrors, hresolves, hvalidators, hvalues, hacyclic⟩
    have hmem := fun d => @mem_definitions_iff settings formats store hstore hnoErrors d
    obtain ⟨hwellFormed, hdistinct, -⟩ := hread.1 hnoErrors
    have hfit := (forall_valueProblems_iff hmem hresolves hvalidators).1 hvalues
    refine ⟨hwellFormed, hdistinct, (forall_resolves_iff hmem).1 hresolves, hvalidators,
      fun d hd e he => ?_, fun d hd e he => ?_,
      fun d b reference hd => (hfit d hd).itemData b reference,
      hacyclic⟩
    · rw [validate?_map_isValid]
      exact (hfit d hd).valid e he
    · rw [validate?_map_isValid]
      exact (hfit d hd).invalid e he
  · intro h
    have hnoErrors := hread.2 ⟨h.wellFormed, h.distinct, nofun⟩
    have hmem := fun d => @mem_definitions_iff settings formats store hstore hnoErrors d
    have hresolves := (forall_resolves_iff hmem).2 h.resolves
    refine ⟨hnoErrors, hresolves, h.validators,
      (forall_valueProblems_iff hmem hresolves h.validators).2 fun d hd => ?_, h.acyclic⟩
    refine ⟨fun e he => ?_, fun e he => ?_, fun b reference => h.itemData d b reference hd⟩
    · have hvalid := h.valid d hd e he
      rwa [validate?_map_isValid] at hvalid
    · have hinvalid := h.invalid d hd e he
      rwa [validate?_map_isValid] at hinvalid

/-- A store with a flag that has a valid and an invalid case, and a record with a variant. -/
def flagStore : Store := ⟨[
  ⟨none, .object [("kind", .string "bool"), ("system", .string "test"), ("name", .string "flag"),
    ("validTestCases", .array [.object [("value", .bool true)]]),
    ("invalidTestCases", .array [.object [("value", .null)]])]⟩,
  ⟨none, .object [("kind", .string "record"), ("system", .string "test"), ("name", .string "user"),
    ("properties", .array [.object [("name", .string "active"), ("propertyType", .string "flag")]]),
    ("variants", .array [.object [("name", .string "short"), ("includeProperties", .array [])]]),
    ("validTestCases", .array [])]⟩]⟩

/-- An example: the batch of the flag and the user. -/
theorem isSuccessful_flagStore_iff :
    (∀ raw ∈ flagStore.entries, raw.value.Distinct)
      ∧ ((ofStore .standard [] flagStore).isSuccessful = true
        ↔ IsSound .standard [] flagStore) := by
  have hdistinct : ∀ raw ∈ flagStore.entries, raw.value.Distinct := by
    simp [flagStore, Json.Distinct, Json.DistinctMembers, Json.DistinctItems]
  exact ⟨hdistinct, isSuccessful_iff_isSound .standard [] flagStore hdistinct⟩

end Catalog

end TypeCatalog
