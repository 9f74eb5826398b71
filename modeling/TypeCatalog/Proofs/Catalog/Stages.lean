import TypeCatalog.Proofs.Catalog.Dependents
import TypeCatalog.Proofs.Catalog.Insertion
import TypeCatalog.Proofs.Definition.Rules

/-!
# The stage at which a definition fails

A definition is read, then its document is written, then its validators are built, then its declared
values are checked. A definition that fails at one stage takes no part in the later ones, so nothing
that is reported of it is a consequence of an earlier failure. `exists_unique_stage` is the main
statement: every definition of a store ends at one `Stage`, which is told by what there is of it (a
definition, a document, a validator), and all its errors but for those on circles are of that stage.

The stages report under the names of types. So the errors of a definition are told from those of
others by its label, where labels differ and no variant has one of them (`StageHypotheses`). The
report is a list that the stages wrote one after the other, each by going through the definitions.
Picking out one label therefore comes down to picking out one definition in each stage
(`filter_flatMap_of_mem`); one lemma for each stage says what is left then.

The stages are `readAll`, `emitAll`, `compileAll` and `valueProblems`, and `problems` joins what the
last three report. `Report.errorsFor` filters by the label, which is `RawDefinition.label` for the
reading and the name of the type behind it.
-/

set_option autoImplicit false

namespace TypeCatalog

open Result Shape RawDefinition

/-! ## One name among many -/

section Key

variable {α β : Type} {name : β → String} {f : α → List β} {xs : List α}

/-- Nothing is collected under a name from items of other keys. -/
theorem filter_flatMap_eq_nil (key : α → String) {a : String}
    (hkey : ∀ x ∈ xs, ∀ y ∈ f x, name y = a → key x = a) (h : ∀ x ∈ xs, key x ≠ a) :
    (xs.flatMap f).filter (name · = a) = [] := by
  refine List.filter_eq_nil_iff.2 fun y hy hname => ?_
  obtain ⟨x, hx, hy⟩ := List.mem_flatMap.1 hy
  exact h x hx (hkey x hx y hy (of_decide_eq_true hname))

/-- Where keys differ, what is collected under a name comes from the one item of that key. -/
theorem filter_flatMap_of_mem (key : α → String) {x : α}
    (hkey : ∀ z ∈ xs, ∀ y ∈ f z, name y = key x → key z = key x) (hnodup : (xs.map key).Nodup)
    (hx : x ∈ xs) : (xs.flatMap f).filter (name · = key x) = (f x).filter (name · = key x) := by
  obtain ⟨front, rest, rfl⟩ := List.append_of_mem hx
  rw [List.map_append, List.map_cons, List.nodup_append, List.nodup_cons] at hnodup
  obtain ⟨-, ⟨hrest, -⟩, hfront⟩ := hnodup
  have hnoFront : (front.flatMap f).filter (name · = key x) = [] := by
    refine filter_flatMap_eq_nil key (fun z hz => hkey z (by simp [hz])) fun z hz => ?_
    exact hfront _ (List.mem_map_of_mem hz) _ List.mem_cons_self
  have hnoRest : (rest.flatMap f).filter (name · = key x) = [] := by
    refine filter_flatMap_eq_nil key (fun z hz => hkey z (by simp [hz])) fun z hz heq => ?_
    exact hrest (heq ▸ List.mem_map_of_mem hz)
  rw [List.flatMap_append, List.flatMap_cons, List.filter_append, List.filter_append, hnoFront,
    hnoRest, List.nil_append, List.append_nil]

end Key

/-! ## Labels -/

/-- A well-formed definition is called by the name that it declares. -/
theorem RawDefinition.exists_label {raw : RawDefinition} (hraw : raw.value.Distinct)
    (h : violations raw.value = []) : ∃ d, Definition.decode raw.value = .ok d
      ∧ raw.typeName? = some d.typeName ∧ ∀ index, raw.label index = d.typeName := by
  obtain ⟨d, hd⟩ := exists_decode_of_violations_eq_nil hraw h
  have hname := typeName?_of_decode h hd
  refine ⟨d, hd, hname, fun index => ?_⟩
  unfold label
  rw [hname]

/-- Where labels differ, no two well-formed definitions have the same name. -/
theorem typeNames_nodup_of_labels {entries : List RawDefinition} {index : Nat}
    (hentries : ∀ raw ∈ entries, raw.value.Distinct)
    (hlabels : ((entries.zipIdx index).map fun entry => entry.1.label entry.2).Nodup) :
    ((entries.filter isWellFormed).map typeName?).Nodup := by
  induction entries generalizing index with
  | nil => exact .nil
  | cons raw rest ih =>
      obtain ⟨hraw, hrest⟩ := List.forall_mem_cons.1 hentries
      rw [List.zipIdx_cons, List.map_cons, List.nodup_cons] at hlabels
      obtain ⟨hnew, hlabels⟩ := hlabels
      by_cases hwell : raw.isWellFormed = true
      · rw [List.filter_cons_of_pos hwell, List.map_cons, List.nodup_cons]
        refine ⟨fun hmem => hnew ?_, ih hrest hlabels⟩
        -- Another definition of the name would have the label of this one.
        obtain ⟨other, hother, hname⟩ := List.mem_map.1 hmem
        obtain ⟨hother, hwellOther⟩ := List.mem_filter.1 hother
        obtain ⟨d, -, hd, hlabel⟩ := exists_label hraw (List.isEmpty_iff.1 hwell)
        obtain ⟨e, -, he, hlabelOther⟩ :=
          exists_label (hrest other hother) (List.isEmpty_iff.1 hwellOther)
        rw [← List.zipIdx_map_fst (index + 1) rest] at hother
        obtain ⟨entry, hentry, rfl⟩ := List.mem_map.1 hother
        refine List.mem_map.2 ⟨entry, hentry, ?_⟩
        rw [he, hd] at hname
        rw [hlabelOther, hlabel, Option.some.inj hname]
      · rw [List.filter_cons_of_neg hwell]
        exact ih hrest hlabels

/-! ## Stages -/

/-- The stages of a batch. -/
inductive Stage where
  /-- The definition is read. -/
  | shape
  /-- Its document is written. -/
  | references
  /-- Its validators are built. -/
  | validators
  /-- Its declared values are checked. -/
  | values
deriving DecidableEq

/-- The errors that a stage may report of a definition that ends there. -/
def Stage.Reports : Stage → List Diagnostic → Prop
  | .shape, xs => xs ≠ [] ∧ ∀ x ∈ xs, ∃ rule, x.rule = some rule ∧ rule.isOfShape = true
  | .references, xs =>
    xs ≠ [] ∧ ∀ x ∈ xs, ∃ rule, x.rule = some rule ∧ rule ∈ Emitter.referenceRules
  | .validators, xs => ∃ x, xs = [x] ∧ x.kind = .schemaCompilation
  | .values, xs => ∀ x ∈ xs, x.kind ∈
    [.exampleValidation, .testCaseValidation, .testCaseInvalidation, .enumItemDataValidation]

namespace Catalog

/-- The errors of a type but for those on circles. -/
def ownErrors (c : Catalog) (label : String) : List Diagnostic :=
  (c.report.errorsFor label).filter (·.kind ≠ .cyclicReference)

/-- Whether what there is of a definition, and what is reported of it, is that of a stage. -/
structure EndsAt (c : Catalog) (label : String) (stage : Stage) : Prop where
  definition : (∃ d ∈ c.definitions, d.typeName = label) ↔ stage ≠ .shape
  document : c.IsEmitted label ↔ stage = .validators ∨ stage = .values
  validator : (c.validators.lookup label).isSome = true ↔ stage = .values
  errors : stage.Reports (c.ownErrors label)

/-- A definition ends at one stage only, since each one leaves something else behind. -/
theorem EndsAt.unique {c : Catalog} {label : String} {stage other : Stage}
    (h : c.EndsAt label stage) (hother : c.EndsAt label other) : stage = other := by
  have hdefinition := h.definition.symm.trans hother.definition
  have hdocument := h.document.symm.trans hother.document
  have hvalidator := h.validator.symm.trans hother.validator
  cases stage <;> cases other <;> simp_all

/-- The assumptions on a batch:

- `distinct`: objects in definitions have no name twice;
- `labels`: definitions have different labels;
- `variants`: no variant with a document has one of these labels. -/
structure StageHypotheses (settings : Settings) (formats : List Format) (store : Store) :
    Prop where
  distinct : ∀ raw ∈ store.entries, raw.value.Distinct
  labels : store.labels.Nodup
  variants : ∀ d ∈ resolved settings formats store, ∀ name ∈ d.variantTypeNames,
    name ∉ store.labels

/-! ## What each stage reports under one label -/

section Own

variable {settings : Settings} {formats : List Format} {store : Store}

/-- No stage finds a circle; these are found in the type map. -/
theorem kind_ne_of_mem_found {x : Diagnostic} (hx : x ∈ found settings formats store) :
    x.kind ≠ .cyclicReference := by
  intro heq
  unfold found problems at hx
  rw [List.mem_append, List.mem_append, List.mem_append] at hx
  rcases hx with hx | hx | hx | hx
  · exact (isOfReading_of_mem_readAll hx).isOfRule.kind_notMem (heq ▸ .head _)
  · exact (isOfRule_of_mem_unresolvedOf hx).kind_notMem (heq ▸ .head _)
  · rw [kind_of_mem_schemaProblems hx] at heq
    cases heq
  · obtain ⟨d, -, hx⟩ := List.mem_flatMap.1 hx
    have hkind := (isOfValues_of_mem_valueProblems hx).kind
    rw [heq] at hkind
    exact absurd hkind (by decide)

/-- What a batch reports but for circles is what its stages find. -/
theorem errors_filter_eq :
    (ofStore settings formats store).report.errors.filter (·.kind ≠ .cyclicReference)
      = (found settings formats store).filter (·.severity = .error) := by
  rw [errors_ofStore]
  refine List.filter_congr fun x hx => ?_
  rw [decide_eq_decide]
  exact and_iff_left (kind_ne_of_mem_found hx)

/-- The circles stand behind all other errors. -/
theorem errors_eq_append_cycles : (ofStore settings formats store).report.errors
    = (ofStore settings formats store).report.errors.filter (·.kind ≠ .cyclicReference)
      ++ (ofStore settings formats store).typeMap.cycles := by
  have hcycles : (ofStore settings formats store).typeMap.cycles.filter (·.severity = .error)
      = (ofStore settings formats store).typeMap.cycles :=
    List.filter_eq_self.2 fun x hx => decide_eq_true (TypeMap.isError_of_mem_cyclesFrom hx)
  rw [errors_filter_eq, errors_report, hcycles]

/-- The errors of a type are those that are found when the store is read, and those of the later
stages. -/
theorem ownErrors_eq (label : String) : (ofStore settings formats store).ownErrors label
    = ((readAll settings.documentation [] 0 store.entries).2.filter (·.typeName = label)).filter
        (·.severity = .error)
      ++ (problems settings formats store).filter (·.typeName = label) := by
  have hcomm (p q : Diagnostic → Bool) (xs : List Diagnostic) :
      (xs.filter p).filter q = (xs.filter q).filter p := by
    rw [List.filter_filter, List.filter_filter]
    exact List.filter_congr fun x _ => Bool.and_comm _ _
  have hproblems : (problems settings formats store).filter (·.severity = .error)
      = problems settings formats store :=
    List.filter_eq_self.2 fun x hx =>
      decide_eq_true (isError_of_mem_problems settings formats store hx)
  unfold ownErrors Report.errorsFor
  rw [hcomm, errors_filter_eq, found, List.filter_append, List.filter_append, hproblems, hcomm]

/-! ### Reading -/

/-- What the reading finds about a definition is reported under its label. -/
theorem typeName_of_mem_problems {documentation : Bool} {raw : RawDefinition} {index : Nat}
    {x : Diagnostic} (hx : x ∈ raw.problems documentation index) :
    x.typeName = raw.label index := by
  have hnotes (h : x ∈ if documentation then documentationWarnings (raw.label index) raw.value
      else []) : x.typeName = raw.label index := by
    split at h
    · obtain ⟨w, -, rfl⟩ := List.mem_map.1 h
      rfl
    · cases h
  cases hentry : readEntry [] index raw with
  | error es =>
      rw [problems_of_error hentry] at hx
      exact (List.mem_append.1 hx).elim hnotes (typeName_of_readEntry_eq_error hentry x)
  | ok d =>
      rw [problems_of_ok hentry] at hx
      exact hnotes hx

/-! ### The later stages -/

/-- A name has a validator where there is a document under it of which one can be built. -/
theorem isSome_lookup_iff (label : String) :
    ((ofStore settings formats store).validators.lookup label).isSome = true
      ↔ (ofStore settings formats store).IsEmitted label
        ∧ ((engineOf settings formats store).compile label).toOption.isSome = true := by
  rw [Option.isSome_iff_exists, Option.isSome_iff_exists]
  simp only [lookup_validators, toOption_eq_some, exists_and_left]
  exact Iff.rfl

/-- What the emitter reports are the references of each definition, under its name. -/
theorem unresolvedOf_emitAll (e : Emitter) (ds : List Definition) :
    unresolvedOf (emitAll e ds) = ds.flatMap fun d =>
      (e.unresolvedReferences (.ofDefinitions ds) d).map (·.toDiagnostic d.typeName) := by
  unfold unresolvedOf emitAll
  dsimp only
  rw [List.flatMap_map]
  refine List.flatMap_congr fun d _ => ?_
  unfold Emitter.emit
  cases e.unresolvedReferences (.ofDefinitions ds) d with
  | nil => rfl
  | cons v vs => rfl

/-- The references of a definition that lead nowhere. -/
def unresolvedProblems (settings : Settings) (formats : List Format) (store : Store)
    (d : Definition) : List Diagnostic :=
  ((Emitter.ofDomain settings.domain).unresolvedReferences
    (.ofDefinitions (ofStore settings formats store).definitions) d).map
      (·.toDiagnostic d.typeName)

/-- A definition has no such report when it is resolved. -/
theorem unresolvedProblems_eq_nil_iff {d : Definition}
    (hd : d ∈ (ofStore settings formats store).definitions) :
    unresolvedProblems settings formats store d = []
      ↔ d ∈ resolved settings formats store := by
  unfold unresolvedProblems resolved
  rw [List.map_eq_nil_iff, mem_resolvedOf, and_iff_right hd]

/-- The problems of the documents that are found under a name. -/
def documentProblems (settings : Settings) (formats : List Format) (store : Store)
    (label : String) : List Diagnostic :=
  (schemaProblems (compileAll (engineOf settings formats store)
    (ofStore settings formats store).documents)).filter (·.typeName = label)

/-- No schema is compiled under a name without a document. -/
theorem documentProblems_eq_nil {label : String}
    (h : ¬ (ofStore settings formats store).IsEmitted label) :
    documentProblems settings formats store label = [] := by
  have hcount : (ofStore settings formats store).documents.countP (·.typeName = label) = 0 := by
    rw [List.countP_eq_zero]
    exact fun document hdocument hname => h ⟨document, hdocument, of_decide_eq_true hname⟩
  unfold documentProblems
  rw [← List.length_eq_zero_iff, length_filter_schemaProblems, hcount, ite_self]

/-- The declared values of a definition without a validator are not looked at. -/
theorem valueProblems_eq_nil {validators : List (String × TypeValidator)} {d : Definition}
    (h : ¬ (validators.lookup d.typeName).isSome = true) : valueProblems validators d = [] := by
  unfold valueProblems
  rw [Option.not_isSome_iff_eq_none.1 h]

/-- What is found behind the reading of the store under the name of a definition is found about its
references, its document and its declared values. -/
theorem filter_problems {d : Definition}
    (hd : d ∈ (ofStore settings formats store).definitions) :
    (problems settings formats store).filter (·.typeName = d.typeName)
      = unresolvedProblems settings formats store d
        ++ (documentProblems settings formats store d.typeName
          ++ valueProblems (ofStore settings formats store).validators d) := by
  have hunresolved : ∀ x ∈ unresolvedProblems settings formats store d,
      x.typeName = d.typeName := by
    intro x hx
    obtain ⟨v, -, rfl⟩ := List.mem_map.1 hx
    rfl
  have hvalues : ∀ x ∈ valueProblems (ofStore settings formats store).validators d,
      x.typeName = d.typeName := fun x hx => (isOfValues_of_mem_valueProblems hx).typeName
  have hunresolvedOf : (unresolvedOf (emitAll (.ofDomain settings.domain)
      (ofStore settings formats store).definitions)).filter (·.typeName = d.typeName)
      -- Each stage reports under the names of definitions, and these differ.
      = unresolvedProblems settings formats store d := by
    rw [unresolvedOf_emitAll]
    refine (filter_flatMap_of_mem Definition.typeName ?_ typeNames_nodup hd).trans ?_
    · intro e _ x hx hname
      obtain ⟨v, -, rfl⟩ := List.mem_map.1 hx
      exact hname
    · exact List.filter_eq_self.2 fun x hx => decide_eq_true (hunresolved x hx)
  have hvaluesOf : ((ofStore settings formats store).definitions.flatMap
      (valueProblems (ofStore settings formats store).validators)).filter
        (·.typeName = d.typeName)
      = valueProblems (ofStore settings formats store).validators d := by
    refine (filter_flatMap_of_mem Definition.typeName ?_ typeNames_nodup hd).trans ?_
    · exact fun e _ x hx hname => (isOfValues_of_mem_valueProblems hx).typeName.symm.trans hname
    · exact List.filter_eq_self.2 fun x hx => decide_eq_true (hvalues x hx)
  unfold problems
  rw [List.filter_append, List.filter_append, hunresolvedOf, hvaluesOf]
  rfl

/-- Nothing is found behind the reading of the store under a name that no definition and no document
has. -/
theorem filter_problems_eq_nil {label : String}
    (hdefinition : ∀ d ∈ (ofStore settings formats store).definitions, d.typeName ≠ label)
    (hdocument : ¬ (ofStore settings formats store).IsEmitted label) :
    (problems settings formats store).filter (·.typeName = label) = [] := by
  have hdocuments : (schemaProblems (compileAll (engineOf settings formats store)
      (ofStore settings formats store).documents)).filter (·.typeName = label) = [] :=
    documentProblems_eq_nil hdocument
  unfold problems
  rw [List.filter_append, List.filter_append, hdocuments, unresolvedOf_emitAll,
    filter_flatMap_eq_nil Definition.typeName _ hdefinition,
    filter_flatMap_eq_nil Definition.typeName _ hdefinition]
  · rfl
  · exact fun e _ x hx hname => (isOfValues_of_mem_valueProblems hx).typeName.symm.trans hname
  · intro e _ x hx hname
    obtain ⟨v, -, rfl⟩ := List.mem_map.1 hx
    exact hname

/-- The errors among what is found about a raw definition are the rules of its shape that it breaks.
-/
theorem errors_of_problems {documentation : Bool} {raw : RawDefinition} (hraw : raw.value.Distinct)
    (index : Nat) : (raw.problems documentation index).filter (·.severity = .error)
      = (violations raw.value).map (·.toDiagnostic (raw.label index)) := by
  have hnotes : (if documentation then documentationWarnings (raw.label index) raw.value
      else []).filter (·.severity = .error) = [] := by
    refine List.filter_eq_nil_iff.2 fun x hx => ?_
    rw [decide_eq_true_eq]
    split at hx
    · exact not_isError_of_mem_documentationWarnings hx
    · cases hx
  by_cases hviolations : violations raw.value = []
  · obtain ⟨d, hd⟩ := exists_decode_of_violations_eq_nil hraw hviolations
    rw [problems_of_ok (readEntry_eq_ok hviolations hd List.not_mem_nil), hnotes, hviolations,
      List.map_nil]
  · rw [problems_of_error (readEntry_of_violations hviolations), List.filter_append, hnotes,
      List.nil_append, List.filter_eq_self.2]
    intro x hx
    obtain ⟨v, hv, rfl⟩ := List.mem_map.1 hx
    exact decide_eq_true (Diagnostic.isError_of_not_isDocumentation
      (not_isDocumentation_of_mem_violations hv) _)

namespace StageHypotheses

variable (h : StageHypotheses settings formats store)

include h

/-- The well-formed definitions have different names, as their labels differ. -/
theorem typeNames_nodup : ((store.entries.filter isWellFormed).map typeName?).Nodup :=
  typeNames_nodup_of_labels h.distinct h.labels

/-- What is found under a label when the store is read is found about its definition. -/
theorem filter_readAll {raw : RawDefinition} {index : Nat}
    (hentry : (raw, index) ∈ store.entries.zipIdx) :
    (readAll settings.documentation [] 0 store.entries).2.filter (·.typeName = raw.label index)
      = raw.problems settings.documentation index := by
  have hkey : ∀ entry ∈ store.entries.zipIdx,
      ∀ x ∈ entry.1.problems settings.documentation entry.2, x.typeName = raw.label index →
        entry.1.label entry.2 = raw.label index :=
    fun entry _ x hx hname => (typeName_of_mem_problems hx).symm.trans hname
  have hlabels : (store.entries.zipIdx.map fun entry => entry.1.label entry.2).Nodup := h.labels
  rw [readAll_eq h.typeNames_nodup (by simp)]
  refine (filter_flatMap_of_mem (fun entry => entry.1.label entry.2) hkey hlabels hentry).trans ?_
  exact List.filter_eq_self.2 fun x hx => decide_eq_true (typeName_of_mem_problems hx)

/-- The errors of a type are the rules of the shape that its raw definition breaks, and what the
later stages find. -/
theorem ownErrors_eq_append {raw : RawDefinition} {index : Nat}
    (hentry : (raw, index) ∈ store.entries.zipIdx) :
    (ofStore settings formats store).ownErrors (raw.label index)
      = (violations raw.value).map (·.toDiagnostic (raw.label index))
        ++ (problems settings formats store).filter (·.typeName = raw.label index) := by
  have hraw := h.distinct raw (List.fst_mem_of_mem_zipIdx hentry)
  rw [ownErrors_eq, h.filter_readAll hentry, errors_of_problems hraw]

/-- A well-formed definition is among those of the batch. -/
theorem mem_definitions {raw : RawDefinition} (hraw : raw ∈ store.entries)
    (hviolations : violations raw.value = []) {d : Definition}
    (hd : Definition.decode raw.value = .ok d) :
    d.withDefaults ∈ (ofStore settings formats store).definitions := by
  rw [definitions_ofStore, readAll_eq h.typeNames_nodup (by simp)]
  refine List.mem_filterMap.2 ⟨raw, hraw, ?_⟩
  unfold RawDefinition.definition?
  rw [readEntry_eq_ok hviolations hd List.not_mem_nil]
  rfl

/-- Another definition has not the name that one which breaks a rule is called by. -/
theorem typeName_ne_label {raw : RawDefinition} {index : Nat}
    (hentry : (raw, index) ∈ store.entries.zipIdx) (hviolations : violations raw.value ≠ []) :
    ∀ d ∈ (ofStore settings formats store).definitions, d.typeName ≠ raw.label index := by
  intro d hd heq
  obtain ⟨other, hother, hwell, e, he, rfl⟩ := exists_of_mem_readAll hd
  obtain ⟨e', he', -, hlabel⟩ := exists_label (h.distinct other hother) hwell
  obtain rfl : e = e' := Except.ok.inj (he.symm.trans he')
  rw [← List.zipIdx_map_fst 0 store.entries] at hother
  obtain ⟨entry, hotherEntry, rfl⟩ := List.mem_map.1 hother
  -- The well-formed definition is called by its name, so the two would be called the same.
  rw [Definition.withDefaults_typeName, ← hlabel entry.2] at heq
  have hsame := List.inj_on_of_nodup_map h.labels hotherEntry hentry heq
  rw [hsame] at hwell
  exact hviolations hwell

/-! ### Documents and validators -/

/-- A document that has a label is that of the type, not of a variant. -/
theorem typeName_of_mem_documentsOf {d : Definition} (hd : d ∈ resolved settings formats store)
    {document : Document}
    (hdocument : document ∈ (Emitter.ofDomain settings.domain).documentsOf d)
    (hlabel : document.typeName ∈ store.labels) : d.typeName = document.typeName := by
  have hname : document.typeName ∈ d.typeName :: d.variantTypeNames := by
    rw [← @Emitter.typeNames_documentsOf (.ofDomain settings.domain) d]
    exact List.mem_map_of_mem hdocument
  rcases List.mem_cons.1 hname with heq | hvariant
  · exact heq.symm
  · exact absurd hlabel (h.variants d hd _ hvariant)

/-- There is a document under a label where the definition of the name has one. -/
theorem isEmitted_iff {label : String} (hlabel : label ∈ store.labels) :
    (ofStore settings formats store).IsEmitted label
      ↔ ∃ d ∈ resolved settings formats store, d.typeName = label := by
  constructor
  · rintro ⟨document, hdocument, rfl⟩
    obtain ⟨d, hd, hdocument⟩ := mem_documents.1 hdocument
    exact ⟨d, hd, h.typeName_of_mem_documentsOf hd hdocument hlabel⟩
  · rintro ⟨d, hd, rfl⟩
    exact ⟨_, mem_documents.2 ⟨d, hd, List.mem_cons_self⟩, rfl⟩

/-- There is one document under the name of a definition that has one. -/
theorem countP_documents {d : Definition} (hd : d ∈ resolved settings formats store)
    (hlabel : d.typeName ∈ store.labels) :
    (ofStore settings formats store).documents.countP (·.typeName = d.typeName) = 1 := by
  have hkey : ∀ e ∈ resolved settings formats store,
      ∀ document ∈ (Emitter.ofDomain settings.domain).documentsOf e,
        document.typeName = d.typeName → e.typeName = d.typeName := by
    intro e he document hdocument hname
    rw [← hname] at hlabel ⊢
    exact h.typeName_of_mem_documentsOf he hdocument hlabel
  have hvariants : d.typeName ∉ d.variantTypeNames := fun hmem => h.variants d hd _ hmem hlabel
  have hcount : ((Emitter.ofDomain settings.domain).documentsOf d).countP
      (·.typeName = d.typeName)
      = (d.typeName :: d.variantTypeNames).countP (· = d.typeName) := by
    rw [← @Emitter.typeNames_documentsOf (.ofDomain settings.domain) d, List.countP_map]
    rfl
  -- No other definition has a document of the name, and of its own documents the first one has it.
  rw [documents_perm_resolved.countP_eq, List.countP_eq_length_filter,
    filter_flatMap_of_mem Definition.typeName hkey
      (typeNames_resolvedOf Catalog.typeNames_nodup) hd,
    ← List.countP_eq_length_filter, hcount, List.countP_cons_of_pos (by simp),
    List.countP_eq_zero.2]
  intro name hname heq
  exact hvariants (of_decide_eq_true heq ▸ hname)

/-- The document of a definition is one problem where no validator can be built of it. -/
theorem length_documentProblems {d : Definition} (hd : d ∈ resolved settings formats store)
    (hlabel : d.typeName ∈ store.labels) :
    (documentProblems settings formats store d.typeName).length
      = if ((engineOf settings formats store).compile d.typeName).toOption.isSome then 0
        else 1 := by
  unfold documentProblems
  rw [length_filter_schemaProblems, h.countP_documents hd hlabel]

/-! ### Where a definition ends -/

/-- A definition that breaks a rule is not read. -/
theorem endsAt_shape {raw : RawDefinition} {index : Nat}
    (hentry : (raw, index) ∈ store.entries.zipIdx) (hviolations : violations raw.value ≠ []) :
    (ofStore settings formats store).EndsAt (raw.label index) .shape := by
  have hlabel : raw.label index ∈ store.labels := List.mem_map.2 ⟨_, hentry, rfl⟩
  have hdefinition : ∀ d ∈ (ofStore settings formats store).definitions,
      d.typeName ≠ raw.label index := h.typeName_ne_label hentry hviolations
  have hdocument : ¬ (ofStore settings formats store).IsEmitted (raw.label index) := by
    rw [h.isEmitted_iff hlabel]
    exact fun ⟨d, hd, hname⟩ => hdefinition d (mem_resolvedOf.1 hd).1 hname
  have herrors : (ofStore settings formats store).ownErrors (raw.label index)
      = (violations raw.value).map (·.toDiagnostic (raw.label index)) := by
    rw [h.ownErrors_eq_append hentry, filter_problems_eq_nil hdefinition hdocument, List.append_nil]
  refine ⟨?_, ?_, ?_, ?_⟩
  · exact iff_of_false (fun ⟨d, hd, hname⟩ => hdefinition d hd hname) (by simp)
  · exact iff_of_false hdocument (by simp)
  · rw [isSome_lookup_iff]
    exact iff_of_false (fun hvalidator => hdocument hvalidator.1) (by simp)
  · rw [herrors]
    refine ⟨by simpa using hviolations, fun x hx => ?_⟩
    obtain ⟨v, hv, rfl⟩ := List.mem_map.1 hx
    exact ⟨v.rule, rfl, stays_iff.1 (stays_violations raw.value) v hv⟩

section Definition

variable {d : Definition} (hd : d ∈ (ofStore settings formats store).definitions)
  (hlabel : d.typeName ∈ store.labels)

include hd hlabel

/-- There is a document under the name of a definition where its references are known. -/
theorem isEmitted_typeName_iff : (ofStore settings formats store).IsEmitted d.typeName
    ↔ d ∈ resolved settings formats store := by
  rw [h.isEmitted_iff hlabel]
  refine ⟨fun ⟨e, he, hname⟩ => ?_, fun hresolved => ⟨d, hresolved, rfl⟩⟩
  rwa [← List.inj_on_of_nodup_map Catalog.typeNames_nodup (mem_resolvedOf.1 he).1 hd hname]

variable (herrors : (ofStore settings formats store).ownErrors d.typeName
  = unresolvedProblems settings formats store d
    ++ (documentProblems settings formats store d.typeName
      ++ valueProblems (ofStore settings formats store).validators d))

include herrors

/-- Without a document there is nothing to build a validator of. -/
theorem endsAt_references (hresolved : d ∉ resolved settings formats store) :
    (ofStore settings formats store).EndsAt d.typeName .references := by
  have hemitted : ¬ (ofStore settings formats store).IsEmitted d.typeName := by
    rwa [h.isEmitted_typeName_iff hd hlabel]
  have hnone : ¬ ((ofStore settings formats store).validators.lookup d.typeName).isSome = true :=
    fun hsome => hemitted ((isSome_lookup_iff _).1 hsome).1
  refine ⟨iff_of_true ⟨d, hd, rfl⟩ (by simp), iff_of_false hemitted (by simp),
    iff_of_false hnone (by simp), ?_⟩
  rw [herrors, documentProblems_eq_nil hemitted, valueProblems_eq_nil hnone, List.append_nil,
    List.append_nil]
  refine ⟨fun hnil => hresolved ((unresolvedProblems_eq_nil_iff hd).1 hnil), fun x hx => ?_⟩
  obtain ⟨v, hv, rfl⟩ := List.mem_map.1 hx
  exact ⟨v.rule, rfl, Emitter.rule_mem_of_mem_unresolvedReferences hv⟩

/-- A document that no validator can be built of is one problem, since it is the only one of its
name. -/
theorem endsAt_validators (hresolved : d ∈ resolved settings formats store)
    (hcompile : ((engineOf settings formats store).compile d.typeName).toOption.isSome ≠ true) :
    (ofStore settings formats store).EndsAt d.typeName .validators := by
  have hnone : ¬ ((ofStore settings formats store).validators.lookup d.typeName).isSome = true :=
    fun hsome => hcompile ((isSome_lookup_iff _).1 hsome).2
  have hlength := h.length_documentProblems hresolved hlabel
  rw [if_neg hcompile, List.length_eq_one_iff] at hlength
  obtain ⟨x, hx⟩ := hlength
  have hmem : x ∈ documentProblems settings formats store d.typeName := by simp [hx]
  refine ⟨iff_of_true ⟨d, hd, rfl⟩ (by simp), ?_, iff_of_false hnone (by simp), x, ?_, ?_⟩
  · exact iff_of_true ((h.isEmitted_typeName_iff hd hlabel).2 hresolved) (by simp)
  · rw [herrors, (unresolvedProblems_eq_nil_iff hd).2 hresolved, hx, valueProblems_eq_nil hnone]
    rfl
  · exact kind_of_mem_schemaProblems (List.mem_filter.1 hmem).1

/-- Where all is there, what is left are the declared values. -/
theorem endsAt_values (hresolved : d ∈ resolved settings formats store)
    (hcompile : ((engineOf settings formats store).compile d.typeName).toOption.isSome = true) :
    (ofStore settings formats store).EndsAt d.typeName .values := by
  have hemitted := (h.isEmitted_typeName_iff hd hlabel).2 hresolved
  have hlength := h.length_documentProblems hresolved hlabel
  rw [if_pos hcompile, List.length_eq_zero_iff] at hlength
  refine ⟨iff_of_true ⟨d, hd, rfl⟩ (by simp), iff_of_true hemitted (by simp), ?_, ?_⟩
  · exact iff_of_true ((isSome_lookup_iff _).2 ⟨hemitted, hcompile⟩) rfl
  · rw [herrors, (unresolvedProblems_eq_nil_iff hd).2 hresolved, hlength, List.nil_append,
      List.nil_append]
    exact fun x hx => (isOfValues_of_mem_valueProblems hx).kind

end Definition

/-- A well-formed definition ends at one of the later stages: at the first one that it fails at, or
at the last one. -/
theorem exists_endsAt_of_wellFormed {raw : RawDefinition} {index : Nat}
    (hentry : (raw, index) ∈ store.entries.zipIdx) (hviolations : violations raw.value = []) :
    ∃ stage, (ofStore settings formats store).EndsAt (raw.label index) stage := by
  have hraw := List.fst_mem_of_mem_zipIdx hentry
  obtain ⟨d, hd, -, hname⟩ := exists_label (h.distinct raw hraw) hviolations
  have hdefinition := h.mem_definitions hraw hviolations hd
  have hlabel : raw.label index ∈ store.labels := List.mem_map.2 ⟨_, hentry, rfl⟩
  have herrors := h.ownErrors_eq_append hentry
  rw [hviolations, List.map_nil, List.nil_append] at herrors
  rw [hname, ← Definition.withDefaults_typeName] at herrors hlabel ⊢
  rw [filter_problems hdefinition] at herrors
  by_cases hresolved : d.withDefaults ∈ resolved settings formats store
  · by_cases hcompile : ((engineOf settings formats store).compile
        d.withDefaults.typeName).toOption.isSome = true
    · exact ⟨.values, h.endsAt_values hdefinition hlabel herrors hresolved hcompile⟩
    · exact ⟨.validators, h.endsAt_validators hdefinition hlabel herrors hresolved hcompile⟩
  · exact ⟨.references, h.endsAt_references hdefinition hlabel herrors hresolved⟩

end StageHypotheses

end Own

/-- No failure is reported twice: every definition of a store ends at one stage, and all its errors
are of that stage. The circles are found over the whole batch and stand behind all other errors. -/
theorem exists_unique_stage {settings : Settings} {formats : List Format} {store : Store}
    (h : StageHypotheses settings formats store) :
    (∀ label ∈ store.labels, ∃! stage, (ofStore settings formats store).EndsAt label stage)
    ∧ ∃ errors circles, (ofStore settings formats store).report.errors = errors ++ circles
      ∧ (∀ x ∈ errors, x.kind ≠ .cyclicReference) ∧ ∀ x ∈ circles, x.kind = .cyclicReference := by
  refine ⟨fun label hlabel => ?_, _, _, errors_eq_append_cycles, fun x hx => ?_, fun x hx => ?_⟩
  · obtain ⟨⟨raw, index⟩, hentry, rfl⟩ := List.mem_map.1 hlabel
    obtain ⟨stage, hstage⟩ :
        ∃ stage, (ofStore settings formats store).EndsAt (raw.label index) stage := by
      by_cases hviolations : violations raw.value = []
      · exact h.exists_endsAt_of_wellFormed hentry hviolations
      · exact ⟨.shape, h.endsAt_shape hentry hviolations⟩
    exact ⟨stage, hstage, fun other hother => hother.unique hstage⟩
  · exact of_decide_eq_true (List.mem_filter.1 hx).2
  · obtain ⟨name, -, c, -, rfl, -⟩ := TypeMap.exists_of_mem_cyclesFrom hx
    rfl

/-- A store with a definition that has no name, a flag, an enum whose data type is missing, and a
record with a variant. -/
def mixedStore : Store := ⟨[
  ⟨none, .object [("kind", .string "bool")]⟩,
  ⟨none, .object [("kind", .string "bool"), ("system", .string "test"), ("name", .string "flag"),
    ("validTestCases", .array [.object [("value", .null)]])]⟩,
  ⟨none, .object [("kind", .string "enum"), ("system", .string "test"), ("name", .string "role"),
    ("items", .array [.object [("value", .string "a"), ("text", .string "A")]]),
    ("dataType", .string "missing")]⟩,
  ⟨none, .object [("kind", .string "record"), ("system", .string "test"), ("name", .string "team"),
    ("properties", .array
      [.object [("name", .string "lead"), ("propertyType", .string "role")]]),
    ("variants", .array [.object [("name", .string "short"), ("includeProperties", .array [])]]),
    ("validTestCases", .array [])]⟩]⟩

/-- An example: one definition for each of four stages. -/
theorem exists_unique_stage_mixedStore :
    StageHypotheses .standard [] mixedStore
    ∧ ∀ label ∈ ["#0", "test/flag", "test/role", "test/team"],
      ∃! stage, (ofStore .standard [] mixedStore).EndsAt label stage := by
  have hlabels : mixedStore.labels = ["#0", "test/flag", "test/role", "test/team"] := by
    decide +kernel
  have h : StageHypotheses .standard [] mixedStore := by
    refine ⟨?_, ?_, ?_⟩
    · simp [mixedStore, Json.Distinct, Json.DistinctMembers, Json.DistinctItems]
    · rw [hlabels]
      decide
    · decide +kernel
  rw [← hlabels]
  exact ⟨h, (exists_unique_stage h).1⟩

end Catalog

end TypeCatalog
