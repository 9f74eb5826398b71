import TypeCatalog.Proofs.Catalog.Cycles
import TypeCatalog.Proofs.Catalog.Insertion
import TypeCatalog.Proofs.Validation.Apart

/-!
# A definition that nothing refers to

Two batches are compared whose definitions are the same but for those of one name. The second has a
definition of this name to which no other one refers, and no other document has its name or that of
one of its variants. What becomes of the others is then the same.

The batch is gone through stage by stage. A reference of another definition is known in both
batches or in neither, though something else may be suggested in its place. So the others have the
same documents, and these refer to no document of the new definition. Their validators are the same
by `Engine.compile_congr`, and so is what is found about the values that they declare.

The first batch may have a definition of the name, too. Having no document, it refers to something
unknown, and this is all that is found about it.

`Diagnostic.Changed` says in what a diagnostic may differ, and `Widens` that one report is another
one with diagnostics put in under some names.

The stages are `emitAll`, `Engine.ofDocuments` with `compileAll`, `valueProblems` and
`TypeMap.cycles`. `KnownTypes.suggest` is where the types of a batch show in the report on
another definition, which is why `Diagnostic.Changed` leaves suggestions out.
-/

set_option autoImplicit false

namespace TypeCatalog

/-! ## Reports with more in them -/

/-- Whether a diagnostic is another one but for the number of a definition, or for what is suggested
in the place of an unknown type. -/
inductive Diagnostic.Changed (n : Nat) : Diagnostic → Diagnostic → Prop
  | renumbered {x y : Diagnostic} (h : Renumbered n x y) : Changed n x y
  | suggestion (known known' : KnownTypes) (rule : Rule) (path message target typeName : String) :
      Changed n ((Emitter.unresolved known rule path message target).toDiagnostic typeName)
        ((Emitter.unresolved known' rule path message target).toDiagnostic typeName)

open Diagnostic (Renumbered Changed)

/-- What changes keeps its severity. -/
theorem Diagnostic.Changed.severity {n : Nat} {x y : Diagnostic} (h : Changed n x y) :
    x.severity = y.severity := by
  cases h with
  | renumbered h => exact h.severity
  | suggestion => rfl

/-- It keeps its kind and its rule. -/
theorem Diagnostic.Changed.kind_rule {n : Nat} {x y : Diagnostic} (h : Changed n x y) :
    y.kind = x.kind ∧ y.rule = x.rule := by
  cases h with
  | renumbered h => cases h <;> exact ⟨rfl, rfl⟩
  | suggestion => exact ⟨rfl, rfl⟩

/-- Whether diagnostics are others with some put in under the given names, where the others may
differ in numbers and suggestions. -/
inductive Widens (n : Nat) (names : List String) : List Diagnostic → List Diagnostic → Prop
  | nil : Widens n names [] []
  | kept {x y : Diagnostic} {xs ys : List Diagnostic} (hxy : Changed n x y)
      (h : Widens n names xs ys) : Widens n names (x :: xs) (y :: ys)
  | own {y : Diagnostic} {xs ys : List Diagnostic} (hy : y.typeName ∈ names)
      (h : Widens n names xs ys) : Widens n names xs (y :: ys)

namespace Widens

variable {n : Nat} {names : List String} {xs ys xs' ys' : List Diagnostic}

/-- Reports that have changed diagnostic by diagnostic widen. -/
theorem of_forall₂ (h : List.Forall₂ (Changed n) xs ys) : Widens n names xs ys := by
  induction h with
  | nil => exact .nil
  | cons hxy _ ih => exact .kept hxy ih

/-- So do those in which numbers have changed. -/
theorem of_renumbered (h : List.Forall₂ (Renumbered n) xs ys) : Widens n names xs ys :=
  of_forall₂ (h.imp fun _ _ hxy => .renumbered hxy)

/-- A report widens to itself. -/
theorem refl (xs : List Diagnostic) : Widens n names xs xs :=
  of_forall₂ (List.forall₂_same.2 fun x _ => .renumbered (.same x))

/-- New diagnostics may be put in. -/
theorem of_own (h : ∀ y ∈ ys, y.typeName ∈ names) : Widens n names [] ys := by
  induction ys with
  | nil => exact .nil
  | cons y ys ih =>
      rw [List.forall_mem_cons] at h
      exact .own h.1 (ih h.2)

/-- Reports that widen may be joined. -/
theorem append (h : Widens n names xs ys) (h' : Widens n names xs' ys') :
    Widens n names (xs ++ xs') (ys ++ ys') := by
  induction h with
  | nil => exact h'
  | kept hxy _ ih => exact .kept hxy ih
  | own hy _ ih => exact .own hy ih

/-- Diagnostics under the names may be left out. -/
theorem of_filter {p : Diagnostic → Bool} (h : ∀ y ∈ ys, p y = false → y.typeName ∈ names) :
    Widens n names (ys.filter p) ys := by
  induction ys with
  | nil => exact .nil
  | cons y ys ih =>
      rw [List.forall_mem_cons] at h
      rw [List.filter_cons]
      split
      · exact .kept (.renumbered (.same y)) (ih h.2)
      · next hp => exact .own (h.1 (Bool.eq_false_of_not_eq_true hp)) (ih h.2)

/-- Severities may be picked out. -/
theorem filter_severity (h : Widens n names xs ys) (s : Severity) :
    Widens n names (xs.filter (·.severity = s)) (ys.filter (·.severity = s)) := by
  induction h with
  | nil => exact .nil
  | @kept x y _ _ hxy _ ih =>
      rw [List.filter_cons, List.filter_cons, hxy.severity]
      split
      · exact .kept hxy ih
      · exact ih
  | own hy _ ih =>
      rw [List.filter_cons]
      split
      · exact .own hy ih
      · exact ih

/-- Nothing is lost. -/
theorem exists_of_mem (h : Widens n names xs ys) {x : Diagnostic} (hx : x ∈ xs) :
    ∃ y ∈ ys, Changed n x y := by
  induction h with
  | nil => cases hx
  | kept hxy _ ih =>
      rcases List.mem_cons.1 hx with rfl | hx
      · exact ⟨_, List.mem_cons_self, hxy⟩
      · obtain ⟨y, hy, hxy⟩ := ih hx
        exact ⟨y, .tail _ hy, hxy⟩
  | own _ _ ih =>
      obtain ⟨y, hy, hxy⟩ := ih hx
      exact ⟨y, .tail _ hy, hxy⟩

end Widens

/-! ## References of the other definitions -/

namespace Definition

/-- The type that is to hold the data of an enum's items. -/
def dataType? (d : Definition) : Option String :=
  match d.body with
  | .enum b => b.dataType.map (Name.resolve none d.header.system)
  | _ => none

/-- The types that the properties of a record or the data of an enum refer to. -/
def references (d : Definition) : List String :=
  match d.body with
  | .record r => r.properties.map (Emitter.propertyTarget d.header.system)
  | _ => d.dataType?.toList

/-- The names of the type and of its variants. -/
def typeNames (d : Definition) : List String := d.typeName :: d.variantTypeNames

/-- The data type of an enum is one of its references. -/
theorem mem_references_of_dataType? {d : Definition} {t : String} (h : d.dataType? = some t) :
    t ∈ d.references := by
  unfold references
  have hmem : t ∈ d.dataType?.toList := Option.mem_toList.2 h
  cases hbody : d.body with
  | record r =>
      unfold dataType? at h
      rw [hbody] at h
      cases h
  | _ => exact hmem

/-- A demand refers to types that the definition refers to. -/
theorem mem_references_of_mem_targets {d : Definition} {entry : String × Demand}
    (hentry : entry ∈ d.demands) {t : String} (ht : t ∈ entry.2.targets) : t ∈ d.references := by
  unfold demands at hentry
  unfold references
  cases hbody : d.body with
  | record r =>
      rw [hbody] at hentry
      rcases List.mem_cons.1 hentry with rfl | hentry
      · exact ht
      · obtain ⟨v, -, rfl⟩ := List.mem_map.1 hentry
        obtain ⟨p, hp, rfl⟩ := List.mem_map.1 ht
        exact List.mem_map_of_mem (List.mem_of_mem_filter hp)
  | object b =>
      rw [hbody] at hentry
      cases hentry
  | _ =>
      rw [hbody, List.mem_singleton] at hentry
      rw [hentry] at ht
      cases ht

end Definition

/-- What is checked of the declared values of a definition that has a validator, where the data type
of an enum is given by its name. -/
theorem valueProblems_eq_append {validators : List (String × TypeValidator)} {d : Definition}
    {t : TypeValidator} (ht : validators.lookup d.typeName = some t) :
    valueProblems validators d = t.verify d
      ++ ((d.dataType?.bind fun name => validators.lookup name).map
        fun w : TypeValidator => w.verifyItemData d).getD [] := by
  rw [valueProblems_eq ht]
  obtain ⟨header, body⟩ := d
  cases body with
  | enum b =>
      obtain ⟨items, dataType⟩ := b
      cases dataType <;> rfl
  | _ => rfl

/-- What is reported of schemas are the documents that could not be compiled. -/
theorem schemaProblems_compileAll (e : Engine) (documents : List Document) :
    schemaProblems (compileAll e documents) = documents.filterMap fun document =>
      match e.compile document.typeName with
      | .ok _ => none
      | .error fault => some (schemaProblem document.typeName fault) := by
  unfold schemaProblems compileAll
  rw [List.filterMap_map]
  rfl

/-- Whether two violations are the same but for what is suggested. -/
inductive Violation.Resuggested : Violation → Violation → Prop
  | mk (known known' : KnownTypes) (rule : Rule) (path message target : String) :
      Resuggested (Emitter.unresolved known rule path message target)
        (Emitter.unresolved known' rule path message target)

open Violation (Resuggested)

/-- Violations with other suggestions are reported with other suggestions. -/
theorem Violation.forall₂_changed {vs ws : List Violation} (h : List.Forall₂ Resuggested vs ws)
    (n : Nat) (typeName : String) : List.Forall₂ (Changed n) (vs.map (·.toDiagnostic typeName))
      (ws.map (·.toDiagnostic typeName)) := by
  rw [List.forall₂_map_left_iff, List.forall₂_map_right_iff]
  refine h.imp fun v w hvw => ?_
  cases hvw with
  | mk => exact .suggestion ..

/-- Among types that are the same as far as a definition refers to them, the same references are
unknown. -/
theorem Emitter.forall₂_resuggested {e : Emitter} {known known' : KnownTypes} {d : Definition}
    (hkind : d.kind ≠ .object) (h : ∀ t ∈ d.references, known'.kind? t = known.kind? t) :
    List.Forall₂ Resuggested (e.unresolvedReferences known d)
      (e.unresolvedReferences known' d) := by
  unfold Definition.kind at hkind
  unfold Definition.references Definition.dataType? at h
  unfold unresolvedReferences
  cases hbody : d.body with
  -- The type of each property is known in both or in neither.
  | record r =>
      rw [hbody] at h
      have hsame : List.Forall₂ (fun p q => p = q ∧ p.1 ∈ r.properties) r.properties.zipIdx
          r.properties.zipIdx :=
        List.forall₂_same.2 fun p hp => ⟨rfl, List.fst_mem_of_mem_zipIdx hp⟩
      refine List.rel_filterMap ?_ hsame
      rintro p q ⟨rfl, hp⟩
      have hkind := h (propertyTarget d.header.system p.1) (List.mem_map.2 ⟨p.1, hp, rfl⟩)
      dsimp only
      unfold KnownTypes.contains
      rw [hkind]
      split
      · exact .none
      · exact .some (.mk ..)
  | enum b =>
      rw [hbody] at h
      dsimp only at h ⊢
      cases hreference : b.dataType with
      | none => exact .nil
      | some reference =>
          rw [hreference] at h
          dsimp only
          rw [h _ (List.mem_singleton_self _)]
          split
          · exact .nil
          · exact .cons (.mk ..) .nil
  | object b =>
      rw [hbody] at hkind
      exact absurd rfl hkind
  | _ => exact .nil

/-- Whether a name is known depends on the definitions of this name alone. -/
theorem KnownTypes.kind?_ofDefinitions_congr {ds es : List Definition}
    (hds : (ds.map (·.typeName)).Nodup) (hes : (es.map (·.typeName)).Nodup) {t : String}
    (h : ∀ d, d.typeName = t → (d ∈ es ↔ d ∈ ds)) :
    (ofDefinitions es).kind? t = (ofDefinitions ds).kind? t := by
  ext kind
  rw [kind?_ofDefinitions hes, kind?_ofDefinitions hds]
  refine exists_congr fun d => ?_
  constructor
  · rintro ⟨hd, hname, hkind⟩
    exact ⟨(h d hname).1 hd, hname, hkind⟩
  · rintro ⟨hd, hname, hkind⟩
    exact ⟨(h d hname).2 hd, hname, hkind⟩

/-- The names of a well-formed definition are names of types. -/
theorem Definition.WellFormed.isTypeName_of_mem_typeNames {d : Definition} (h : d.WellFormed)
    {t : String} (ht : t ∈ d.typeNames) : Name.IsTypeName t := by
  rcases List.mem_cons.1 ht with rfl | ht
  · exact ⟨d.header.system, d.header.name, h.system, h.name, rfl⟩
  · obtain ⟨v, hv, rfl⟩ := List.mem_map.1 ht
    exact ⟨d.header.system, d.variantName v, h.system, h.isIdentifier_variantName hv, rfl⟩

/-- Whether a diagnostic says that a type is unknown to which the type of a name refers. -/
def Diagnostic.isUnknownIn (typeName : String) (x : Diagnostic) : Bool :=
  x.typeName = typeName ∧ x.kind = .unresolvedReference
    ∧ x.rule.any (· ∈ Emitter.referenceRules) = true

/-- A violation of a reference is about an unknown type of the definition that has it. -/
theorem Violation.isUnknownIn_toDiagnostic {v : Violation} (hv : v.rule ∈ Emitter.referenceRules)
    (name typeName : String) :
    (v.toDiagnostic name).isUnknownIn typeName = decide (name = typeName) := by
  have hall : ∀ rule ∈ Emitter.referenceRules, rule.kind = .unresolvedReference := by decide
  refine decide_eq_decide.2 (and_iff_left ⟨hall _ hv, ?_⟩)
  exact decide_eq_true hv

/-- Neither a number nor a suggestion makes known what is unknown. -/
theorem Diagnostic.Changed.isUnknownIn {n : Nat} {x y : Diagnostic} (h : Changed n x y)
    {typeName : String} (hx : x.isUnknownIn typeName = true) : y.isUnknownIn y.typeName = true := by
  obtain ⟨-, hkind, hrule⟩ := of_decide_eq_true hx
  refine decide_eq_true ⟨rfl, h.kind_rule.1.trans hkind, ?_⟩
  rwa [h.kind_rule.2]

/-- What is of another kind is about no unknown type. -/
theorem Diagnostic.isUnknownIn_of_kind {x : Diagnostic} (h : x.kind ≠ .unresolvedReference)
    (typeName : String) : x.isUnknownIn typeName = false :=
  decide_eq_false fun hunknown => h hunknown.2.1

/-- So nothing is dropped of a list of such. -/
theorem filter_not_isUnknownIn {xs : List Diagnostic} {typeName : String}
    (h : ∀ x ∈ xs, x.isUnknownIn typeName = false) :
    xs.filter (fun x => !x.isUnknownIn typeName) = xs :=
  List.filter_eq_self.2 fun x hx => by rw [h x hx, Bool.not_false]

/-- Nothing that is reported of schemas is about an unknown type. -/
theorem isUnknownIn_of_mem_schemaProblems
    {attempts : List (String × Except BuildError TypeValidator)} {x : Diagnostic}
    (hx : x ∈ schemaProblems attempts) (typeName : String) : x.isUnknownIn typeName = false := by
  refine Diagnostic.isUnknownIn_of_kind ?_ typeName
  rw [Catalog.kind_of_mem_schemaProblems hx]
  decide

/-- Nor is what is reported of values. -/
theorem isUnknownIn_of_mem_flatMap_valueProblems {validators : List (String × TypeValidator)}
    {ds : List Definition} {x : Diagnostic} (hx : x ∈ ds.flatMap (valueProblems validators))
    (typeName : String) : x.isUnknownIn typeName = false := by
  obtain ⟨d, -, hx⟩ := List.mem_flatMap.1 hx
  have hall : ∀ kind ∈ [Kind.exampleValidation, .testCaseValidation, .testCaseInvalidation,
      .enumItemDataValidation], kind ≠ .unresolvedReference := by decide
  exact Diagnostic.isUnknownIn_of_kind (hall _ (isOfValues_of_mem_valueProblems hx).kind) typeName

/-- Nor is what the reading reports. -/
theorem isUnknownIn_of_mem_readAll {documentation : Bool} {entries : List RawDefinition}
    {x : Diagnostic} (hx : x ∈ (readAll documentation [] 0 entries).2) (typeName : String) :
    x.isUnknownIn typeName = false := by
  obtain ⟨rule, hrule, -, hnot⟩ := Catalog.isOfReading_of_mem_readAll hx
  refine decide_eq_false fun hunknown => hnot ?_
  have hany := hunknown.2.2
  rw [hrule] at hany
  exact of_decide_eq_true hany

namespace Catalog

/-! ## Two batches -/

/-- Whether a definition has nothing to do with those of a batch:

- `kind`, `kinds`: neither it nor another definition is given as a schema;
- `references`: no other definition refers to it;
- `documents`: no other document has its name or that of one of its variants;
- `variants`: a definition that refers to one of its variants has no document, and no document has
  the name of this definition. -/
structure Unreferenced (c : Catalog) (x : Definition) : Prop where
  kind : x.kind ≠ .object
  kinds : ∀ d ∈ c.definitions, d.kind ≠ .object
  references : ∀ d ∈ c.definitions, x.typeName ∉ d.references
  documents : ∀ document ∈ c.documents, document.typeName ∉ x.typeNames
  variants : ∀ d ∈ c.definitions, ∀ t ∈ d.references, t ∈ x.variantTypeNames →
    ∀ document ∈ c.documents, document.typeName ≠ d.typeName

/-- Whether two batches give the same answers about all names but some. -/
structure AgreesApart (names : List String) (c c' : Catalog) : Prop where
  document? : ∀ system name, Name.qualify system name ∉ names →
    c'.document? system name = c.document? system name
  fingerprint? : ∀ system name, Name.qualify system name ∉ names →
    c'.fingerprint? system name = c.fingerprint? system name
  hasValidator : ∀ system name, Name.qualify system name ∉ names →
    c'.hasValidator system name = c.hasValidator system name
  validate? : ∀ system name, Name.qualify system name ∉ names →
    ∀ v, c'.validate? system name v = c.validate? system name v
  validateList? : ∀ system name, Name.qualify system name ∉ names →
    ∀ v, c'.validateList? system name v = c.validateList? system name v

/-- Whether the definitions of a batch are those of another one and one more, with which the others
have nothing to do and which takes the place of another one of its name. -/
structure Adds (settings : Settings) (formats : List Format) (store store' : Store)
    (as bs : List Definition) (x : Definition) : Prop where
  before : (ofStore settings formats store).definitions.filter (·.typeName ≠ x.typeName) = as ++ bs
  after : (ofStore settings formats store').definitions = as ++ x :: bs
  unreferenced : (ofStore settings formats store).Unreferenced x

namespace Adds

variable {settings : Settings} {formats : List Format} {store store' : Store}
  {as bs : List Definition} {x : Definition} (h : Adds settings formats store store' as bs x)

include h

/-- The definitions of other names are the same in both batches. -/
theorem filter_definitions :
    (ofStore settings formats store').definitions.filter (·.typeName ≠ x.typeName)
      = (ofStore settings formats store).definitions.filter (·.typeName ≠ x.typeName) := by
  rw [h.after, List.filter_append, List.filter_cons_of_neg (by simp), ← List.filter_append,
    ← h.before, List.filter_filter]
  simp only [Bool.and_self]

/-- So a definition of another name is in both or in neither. -/
theorem mem_after_iff {d : Definition} (hname : d.typeName ≠ x.typeName) :
    d ∈ (ofStore settings formats store').definitions
      ↔ d ∈ (ofStore settings formats store).definitions := by
  have hmem : d ∈ (ofStore settings formats store').definitions.filter (·.typeName ≠ x.typeName)
      ↔ d ∈ (ofStore settings formats store).definitions.filter (·.typeName ≠ x.typeName) := by
    rw [h.filter_definitions]
  rwa [List.mem_filter, List.mem_filter, decide_eq_true_eq, and_iff_left hname,
    and_iff_left hname] at hmem

/-- The new definition is in the second batch. -/
theorem mem_after : x ∈ (ofStore settings formats store').definitions := by
  rw [h.after]
  exact List.mem_append_right _ List.mem_cons_self

/-- And it is well formed. -/
theorem wellFormed : x.WellFormed := wellFormed_of_mem h.mem_after

/-! ### Documents -/

/-- The same references are unknown. -/
theorem forall₂_resuggested {d : Definition}
    (hd : d ∈ (ofStore settings formats store).definitions) :
    List.Forall₂ Resuggested
      ((Emitter.ofDomain settings.domain).unresolvedReferences
        (.ofDefinitions (ofStore settings formats store).definitions) d)
      ((Emitter.ofDomain settings.domain).unresolvedReferences
        (.ofDefinitions (ofStore settings formats store').definitions) d) := by
  refine Emitter.forall₂_resuggested (h.unreferenced.kinds d hd) fun t ht => ?_
  refine KnownTypes.kind?_ofDefinitions_congr typeNames_nodup typeNames_nodup fun e he => ?_
  refine h.mem_after_iff fun heq => h.unreferenced.references d hd ?_
  rwa [← heq, he]

/-- The other definitions are resolved in both batches or in neither. -/
theorem isResolved_eq {d : Definition} (hd : d ∈ (ofStore settings formats store).definitions) :
    isResolved (.ofDomain settings.domain) (ofStore settings formats store').definitions d
      = isResolved (.ofDomain settings.domain) (ofStore settings formats store).definitions d := by
  unfold isResolved
  have hlength := (h.forall₂_resuggested hd).length_eq
  rw [Bool.eq_iff_iff, List.isEmpty_iff_length_eq_zero, List.isEmpty_iff_length_eq_zero, hlength]

/-- A definition that had documents before has another name than the new documents. -/
theorem typeName_notMem {d : Definition} (hd : d ∈ resolved settings formats store) :
    d.typeName ∉ x.typeNames :=
  h.unreferenced.documents _ (mem_documents.2 ⟨d, hd, List.mem_cons_self⟩)

/-- The others that have documents are those that had documents before. -/
theorem filter_resolved : (resolved settings formats store').filter (·.typeName ≠ x.typeName)
    = resolved settings formats store := by
  have hself : (resolved settings formats store).filter (·.typeName ≠ x.typeName)
      = resolved settings formats store := by
    refine List.filter_eq_self.2 fun d hd => decide_eq_true fun heq => ?_
    exact h.typeName_notMem hd (heq ▸ List.mem_cons_self)
  rw [← hself]
  unfold resolved resolvedOf
  rw [List.filter_comm, h.filter_definitions,
    List.filter_congr fun d hd => h.isResolved_eq (List.mem_filter.1 hd).1, List.filter_comm]

/-- The second batch emits the same, but for the new definition. -/
theorem filter_emitted : (ofStore settings formats store').emitted.filter (·.1 ≠ x.typeName)
    = (ofStore settings formats store).emitted := by
  have hperm : ((ofStore settings formats store').emitted.filter (·.1 ≠ x.typeName)).Perm
      (ofStore settings formats store).emitted := by
    refine ((emittedOf_perm _ _).filter _).trans (.trans (.of_eq ?_) (emittedOf_perm _ _).symm)
    rw [List.filter_map]
    exact congrArg _ h.filter_resolved
  have hnodup : ((ofStore settings formats store).emitted.map Prod.fst).Nodup :=
    emitted_fst_nodup (@typeNames_nodup settings formats store)
  refine hperm.eq_of_pairwise (fun a b ha hb hab hba => ?_)
    ((pairwise_emittedOf _).filter _) (pairwise_emittedOf _)
  exact List.inj_on_of_nodup_map hnodup (hperm.mem_iff.1 ha) hb (le_antisymm hab hba)

/-- The documents with other names are those that were there before. -/
theorem filter_documents :
    (ofStore settings formats store').documents.filter (·.typeName ∉ x.typeNames)
      = (ofStore settings formats store).documents := by
  have hentry : ∀ entry ∈ (ofStore settings formats store').emitted,
      entry.2.documents.filter (·.typeName ∉ x.typeNames)
        = if entry.1 ≠ x.typeName then entry.2.documents else [] := by
    intro entry hentry
    split
    · next hne =>
        -- It was there before, and so were its documents.
        refine List.filter_eq_self.2 fun document hdocument => decide_eq_true ?_
        refine h.unreferenced.documents document (List.mem_flatMap.2 ⟨entry, ?_, hdocument⟩)
        rw [← h.filter_emitted]
        exact List.mem_filter.2 ⟨hentry, decide_eq_true hne⟩
    · next heq =>
        obtain ⟨d, hd, rfl⟩ := List.mem_map.1 ((emittedOf_perm _ _).mem_iff.1 hentry)
        obtain rfl : d = x := by
          refine List.inj_on_of_nodup_map (@typeNames_nodup settings formats store')
            (mem_resolvedOf.1 hd).1 h.mem_after ?_
          simpa using heq
        refine List.filter_eq_nil_iff.2 fun document hdocument => ?_
        rw [decide_eq_true_eq, not_not]
        show document.typeName ∈ d.typeName :: d.variantTypeNames
        rw [← Emitter.typeNames_documentsOf (e := .ofDomain settings.domain)]
        exact List.mem_map_of_mem hdocument
  unfold documents
  rw [List.filter_flatMap, List.flatMap_congr hentry, ← h.filter_emitted, TypeMap.flatMap_filter]
  simp only [decide_eq_true_eq]

/-- A document of another name is in both batches or in neither. -/
theorem mem_documents_iff {document : Document} (hname : document.typeName ∉ x.typeNames) :
    document ∈ (ofStore settings formats store').documents
      ↔ document ∈ (ofStore settings formats store).documents := by
  rw [← h.filter_documents, List.mem_filter, decide_eq_true_eq, and_iff_left hname]

/-! ### Validators -/

/-- The documents of the others refer to others. -/
theorem refersWithin {document : Document}
    (hdocument : document ∈ (ofStore settings formats store).documents) :
    RefersWithin (.ofDomain settings.domain) (fun t => Name.IsTypeName t ∧ t ∉ x.typeNames)
      document.schema := by
  obtain ⟨d, hd, hmem⟩ := mem_documents.1 hdocument
  obtain ⟨hdefinition, hnil⟩ := mem_resolvedOf.1 hd
  obtain ⟨demand, header, hentry, hschema⟩ := (Emitter.ofDomain settings.domain
    ).exists_demand_of_mem_documentsOf (h.unreferenced.kinds d hdefinition) hmem
  obtain ⟨system, name, hname, hs, hn⟩ := exists_of_mem_documents hdocument
  have hresolves := (Emitter.unresolvedReferences_eq_nil_iff typeNames_nodup).1 hnil
  rw [hschema]
  refine .demandSchema ⟨system, name, hs, hn, hname⟩
    ((wellFormed_of_mem hdefinition).demand hentry) fun t ht => ?_
  obtain ⟨target, htarget, rfl⟩ := hresolves.demand hentry ht
  refine ⟨isTypeName_of_mem htarget, isTypeName_of_mem htarget, fun hmem => ?_⟩
  have href := Definition.mem_references_of_mem_targets hentry ht
  have hself := mem_documents.2 ⟨d, hd, List.mem_cons_self⟩
  rcases List.mem_cons.1 hmem with heq | hmem
  · exact h.unreferenced.references d hdefinition (heq ▸ href)
  · exact h.unreferenced.variants d hdefinition _ href hmem _ hself rfl

/-- The engine has something else at the addresses of the new documents alone. -/
theorem differsWithin : (Emitter.ofDomain settings.domain).DiffersWithin x.typeNames
    (engineOf settings formats store).documents (engineOf settings formats store').documents := by
  unfold engineOf
  rw [Engine.ofDocuments_eq, Engine.ofDocuments_eq, ← h.filter_documents]
  refine ⟨fun t ht => h.wellFormed.isTypeName_of_mem_typeNames ht, ?_, ?_⟩
  · intro address haddress
    refine (Table.lookup_foldl_insert_filter [] fun document hdocument hname => ?_).symm
    rw [decide_eq_false_iff_not, not_not] at hname
    rw [uri_of_mem_documents hdocument]
    exact (haddress _ hname).symm
  · intro address schema hlookup
    dsimp only at hlookup
    rw [h.filter_documents] at hlookup
    rcases Table.mem_of_lookup_foldl_insert hlookup with ⟨document, hdocument, -, rfl⟩ | hnil
    · exact h.refersWithin hdocument
    · cases hnil

/-- Such a name has the same address in both engines. -/
theorem lookup_addresses {name : String} (hname : name ∉ x.typeNames) :
    (engineOf settings formats store').addresses.lookup name
      = (engineOf settings formats store).addresses.lookup name := by
  unfold engineOf
  rw [Engine.ofDocuments_eq, Engine.ofDocuments_eq, ← h.filter_documents]
  refine (Table.lookup_foldl_insert_filter [] fun document hdocument hmem heq => ?_).symm
  rw [decide_eq_false_iff_not, not_not] at hmem
  exact hname (heq ▸ hmem)

/-- Of the documents of the others the same validators are built. -/
theorem compile_eq {document : Document}
    (hdocument : document ∈ (ofStore settings formats store).documents) :
    (engineOf settings formats store').compile document.typeName
      = (engineOf settings formats store).compile document.typeName := by
  obtain ⟨system, name, hname, hs, hn⟩ := exists_of_mem_documents hdocument
  have hnot := h.unreferenced.documents document hdocument
  refine Engine.compile_congr h.differsWithin ?_ ?_ (h.lookup_addresses hnot) ?_
    ⟨system, name, hs, hn, hname⟩ hnot
  · unfold engineOf
    rw [Engine.ofDocuments_eq, Engine.ofDocuments_eq]
  · unfold engineOf
    rw [Engine.ofDocuments_eq, Engine.ofDocuments_eq]
  · intro uri huri
    unfold engineOf at huri
    rw [Engine.ofDocuments_eq] at huri
    rcases Table.mem_of_lookup_foldl_insert huri with ⟨other, hother, hsame, rfl⟩ | hnil
    · rw [uri_of_mem_documents hother, hsame]
    · cases hnil

/-- And the same validators. -/
theorem lookup_validators_eq {name : String} (hname : name ∉ x.typeNames) :
    (ofStore settings formats store').validators.lookup name
      = (ofStore settings formats store).validators.lookup name := by
  ext t
  rw [lookup_validators, lookup_validators]
  constructor
  · rintro ⟨⟨document, hdocument, rfl⟩, hcompile⟩
    have hmem := (h.mem_documents_iff hname).1 hdocument
    exact ⟨⟨document, hmem, rfl⟩, h.compile_eq hmem ▸ hcompile⟩
  · rintro ⟨⟨document, hdocument, rfl⟩, hcompile⟩
    have hmem := (h.mem_documents_iff hname).2 hdocument
    exact ⟨⟨document, hmem, rfl⟩, (h.compile_eq hdocument).symm ▸ hcompile⟩

/-- All that is asked by such a name is answered alike. -/
theorem agreesApart : AgreesApart x.typeNames (ofStore settings formats store)
    (ofStore settings formats store') := by
  have hdocument (system name : String) (hname : Name.qualify system name ∉ x.typeNames) :
      (ofStore settings formats store').document? system name
        = (ofStore settings formats store).document? system name := by
    unfold document?
    rw [← h.filter_documents, List.find?_filter]
    congr 1
    funext document
    simp only [decide_eq_true_eq]
    refine decide_eq_decide.2 (Iff.symm (and_iff_right_of_imp ?_))
    intro heq
    rwa [heq]
  have hvalidator (system name : String) (hname : Name.qualify system name ∉ x.typeNames) :
      (ofStore settings formats store').validator? system name
        = (ofStore settings formats store).validator? system name :=
    h.lookup_validators_eq hname
  refine ⟨hdocument, ?_, ?_, ?_, ?_⟩
  · intro system name hname
    unfold fingerprint?
    rw [hdocument system name hname]
  · intro system name hname
    unfold hasValidator
    rw [hvalidator system name hname]
  · intro system name hname v
    unfold validate?
    rw [hvalidator system name hname]
  · intro system name hname v
    unfold validateList?
    rw [hvalidator system name hname]

/-! ### What is found -/

/-- The same is found about the values of the others. -/
theorem valueProblems_eq {d : Definition} (hd : d ∈ (ofStore settings formats store).definitions)
    (hname : d.typeName ∉ x.typeNames) :
    valueProblems (ofStore settings formats store').validators d
      = valueProblems (ofStore settings formats store).validators d := by
  have hself := h.lookup_validators_eq hname
  cases ht : (ofStore settings formats store).validators.lookup d.typeName with
  | none =>
      unfold valueProblems
      rw [hself, ht]
  | some t =>
      rw [valueProblems_eq_append ht, valueProblems_eq_append (hself.trans ht)]
      cases hdata : d.dataType? with
      | none => simp only [Option.bind_none]
      | some name =>
          -- The data are checked, so the definition's name is that of a document.
          obtain ⟨⟨document, hdocument, hsame⟩, -⟩ := lookup_validators.1 ht
          have href := Definition.mem_references_of_dataType? hdata
          have hnot : name ∉ x.typeNames := by
            intro hmem
            rcases List.mem_cons.1 hmem with rfl | hmem
            · exact h.unreferenced.references d hd href
            · exact h.unreferenced.variants d hd name href hmem document hdocument hsame
          simp only [Option.bind_some, h.lookup_validators_eq hnot]

/-- Nothing was found about values under the new names. -/
theorem valueProblems_eq_nil {d : Definition} (hname : d.typeName ∈ x.typeNames) :
    valueProblems (ofStore settings formats store).validators d = [] := by
  refine Catalog.valueProblems_eq_nil fun hsome => ?_
  obtain ⟨t, ht⟩ := Option.isSome_iff_exists.1 hsome
  obtain ⟨⟨document, hdocument, hsame⟩, -⟩ := lookup_validators.1 ht
  exact h.unreferenced.documents document hdocument (hsame ▸ hname)

/-- What is found of each definition, where that of the new one is found under its name. -/
theorem widens_flatMap {n : Nat} {f g : Definition → List Diagnostic}
    (hothers : ∀ d ∈ (ofStore settings formats store).definitions,
      Widens n x.typeNames (f d) (g d))
    (hself : ∀ y ∈ g x, y.typeName = x.typeName) :
    Widens n x.typeNames
      (((ofStore settings formats store).definitions.filter (·.typeName ≠ x.typeName)).flatMap f)
      ((ofStore settings formats store').definitions.flatMap g) := by
  have hall (ds : List Definition) (hds : ∀ d ∈ ds, Widens n x.typeNames (f d) (g d)) :
      Widens n x.typeNames (ds.flatMap f) (ds.flatMap g) := by
    induction ds with
    | nil => exact .nil
    | cons d ds ih =>
        rw [List.forall_mem_cons] at hds
        exact hds.1.append (ih hds.2)
  have hkept : ∀ d ∈ as ++ bs, Widens n x.typeNames (f d) (g d) := by
    rw [← h.before]
    exact fun d hd => hothers d (List.mem_filter.1 hd).1
  rw [List.forall_mem_append] at hkept
  rw [h.before, h.after, List.flatMap_append, List.flatMap_append, List.flatMap_cons]
  refine (hall as hkept.1).append ?_
  exact (Widens.of_own fun y hy => hself y hy ▸ List.mem_cons_self).append (hall bs hkept.2)

/-- All that is found unknown is so before, but for what was unknown to a definition of the name. -/
theorem widens_unresolvedOf (n : Nat) : Widens n x.typeNames
    ((unresolvedOf (emitAll (.ofDomain settings.domain)
      (ofStore settings formats store).definitions)).filter
        fun y => !y.isUnknownIn x.typeName)
    (unresolvedOf (emitAll (.ofDomain settings.domain)
      (ofStore settings formats store').definitions)) := by
  have hfilter : (unresolvedOf (emitAll (.ofDomain settings.domain)
      (ofStore settings formats store).definitions)).filter (fun y => !y.isUnknownIn x.typeName)
      = ((ofStore settings formats store).definitions.filter
        (·.typeName ≠ x.typeName)).flatMap fun d =>
          ((Emitter.ofDomain settings.domain).unresolvedReferences
            (.ofDefinitions (ofStore settings formats store).definitions) d).map
              (·.toDiagnostic d.typeName) := by
    rw [unresolvedOf_emitAll, List.filter_flatMap, TypeMap.flatMap_filter]
    refine List.flatMap_congr fun d _ => ?_
    rw [List.filter_map]
    split
    · next hne =>
        refine congrArg _ (List.filter_eq_self.2 fun v hv => ?_)
        have hrule := Emitter.rule_mem_of_mem_unresolvedReferences hv
        rw [Function.comp_apply, Violation.isUnknownIn_toDiagnostic hrule, ← decide_not]
        exact hne
    · next heq =>
        refine List.map_eq_nil_iff.2 (List.filter_eq_nil_iff.2 fun v hv => ?_)
        have hrule := Emitter.rule_mem_of_mem_unresolvedReferences hv
        rw [Function.comp_apply, Violation.isUnknownIn_toDiagnostic hrule, ← decide_not]
        exact heq
  rw [hfilter, unresolvedOf_emitAll]
  refine h.widens_flatMap (fun d hd => ?_) fun y hy => ?_
  · exact .of_forall₂ (Violation.forall₂_changed (h.forall₂_resuggested hd) n d.typeName)
  · obtain ⟨v, -, rfl⟩ := List.mem_map.1 hy
    rfl

/-- What is found about schemas is found as before. -/
theorem widens_schemaProblems (n : Nat) : Widens n x.typeNames
    (schemaProblems (compileAll (engineOf settings formats store)
      (ofStore settings formats store).documents))
    (schemaProblems (compileAll (engineOf settings formats store')
      (ofStore settings formats store').documents)) := by
  have hfilter : (schemaProblems (compileAll (engineOf settings formats store')
      (ofStore settings formats store').documents)).filter (fun y => y.typeName ∉ x.typeNames)
      = schemaProblems (compileAll (engineOf settings formats store)
        (ofStore settings formats store).documents) := by
    rw [schemaProblems_compileAll, schemaProblems_compileAll, List.filter_filterMap,
      ← h.filter_documents, List.filterMap_filter]
    refine List.filterMap_congr fun document hdocument => ?_
    by_cases hname : document.typeName ∈ x.typeNames
    · rw [if_neg (by simpa using hname)]
      split
      · rfl
      · exact Option.filter_some_neg (decide_eq_false (not_not_intro hname))
    · rw [if_pos (by simpa using hname), h.compile_eq ((h.mem_documents_iff hname).1 hdocument)]
      split
      · rfl
      · exact Option.filter_some_pos (decide_eq_true hname)
  rw [← hfilter]
  exact .of_filter fun y _ hy => not_not.1 (of_decide_eq_false hy)

/-- All that the stages find between the reading of the store and the type map is found as before,
but for what was unknown to a definition of the name. -/
theorem widens_problems (n : Nat) : Widens n x.typeNames
    ((problems settings formats store).filter fun y => !y.isUnknownIn x.typeName)
    (problems settings formats store') := by
  -- A definition of the name had no validator, so nothing was found about its values.
  have hothers : (ofStore settings formats store).definitions.flatMap
      (valueProblems (ofStore settings formats store).validators)
      = ((ofStore settings formats store).definitions.filter (·.typeName ≠ x.typeName)).flatMap
        (valueProblems (ofStore settings formats store).validators) := by
    rw [TypeMap.flatMap_filter]
    refine List.flatMap_congr fun d _ => ?_
    split
    · rfl
    · next heq =>
        have hname : d.typeName = x.typeName := by simpa using heq
        exact h.valueProblems_eq_nil (hname ▸ List.mem_cons_self)
  unfold problems
  rw [List.filter_append, List.filter_append,
    filter_not_isUnknownIn fun y hy => isUnknownIn_of_mem_schemaProblems hy x.typeName,
    filter_not_isUnknownIn fun y hy => isUnknownIn_of_mem_flatMap_valueProblems hy x.typeName,
    hothers]
  refine (h.widens_unresolvedOf n).append ((h.widens_schemaProblems n).append ?_)
  refine h.widens_flatMap (fun d hd => ?_) fun y hy => ?_
  · by_cases hname : d.typeName ∈ x.typeNames
    · rw [h.valueProblems_eq_nil hname]
      exact .of_own fun y hy => (isOfValues_of_mem_valueProblems hy).typeName ▸ hname
    · rw [h.valueProblems_eq hd hname]
      exact .refl _
  · exact (isOfValues_of_mem_valueProblems hy).typeName

/-- The second batch has no circles, either. -/
theorem cycles_eq_nil : (ofStore settings formats store').typeMap.cycles = [] := by
  refine cycles_eq_nil_of_kinds fun d hd => ?_
  by_cases hname : d.typeName = x.typeName
  · rw [List.inj_on_of_nodup_map typeNames_nodup hd h.mem_after hname]
    exact h.unreferenced.kind
  · exact h.unreferenced.kinds d ((h.mem_after_iff hname).1 hd)

end Adds

section

variable {settings : Settings} {formats : List Format} {store : Store} {typeName : String}

/-- Of all that is found, only the second stage tells of unknown types. -/
theorem mem_unresolvedOf_of_isUnknownIn {y : Diagnostic} (hy : y ∈ found settings formats store)
    (hunknown : y.isUnknownIn typeName = true) : y ∈ unresolvedOf
      (emitAll (.ofDomain settings.domain) (ofStore settings formats store).definitions) := by
  unfold found problems at hy
  rw [List.mem_append, List.mem_append, List.mem_append] at hy
  rcases hy with hy | hy | hy | hy
  · rw [isUnknownIn_of_mem_readAll hy] at hunknown
    cases hunknown
  · exact hy
  · rw [isUnknownIn_of_mem_schemaProblems hy] at hunknown
    cases hunknown
  · rw [isUnknownIn_of_mem_flatMap_valueProblems hy] at hunknown
    cases hunknown

/-- Only a definition of a name refers to something unknown under this name. -/
theorem filter_problems_of_forall_ne
    (h : ∀ d ∈ (ofStore settings formats store).definitions, d.typeName ≠ typeName) :
    (problems settings formats store).filter (fun y => !y.isUnknownIn typeName)
      = problems settings formats store := by
  refine filter_not_isUnknownIn fun y hy => Bool.eq_false_of_not_eq_true fun hunknown => ?_
  have hmem := mem_unresolvedOf_of_isUnknownIn (List.mem_append_right _ hy) hunknown
  rw [unresolvedOf_emitAll] at hmem
  obtain ⟨d, hd, hmem⟩ := List.mem_flatMap.1 hmem
  obtain ⟨v, -, rfl⟩ := List.mem_map.1 hmem
  exact h d hd (of_decide_eq_true hunknown).1

end

end Catalog

end TypeCatalog
