import Mathlib.Logic.Relation
import TypeCatalog.Proofs.Catalog.Meaning
import TypeCatalog.Proofs.Catalog.Order
import TypeCatalog.Proofs.Definition.Rules

/-!
# What a missing document blocks

A definition whose references are not known has no document, and then no validator can be built for
the documents that refer to it, directly or behind others. `compiled_iff_reached_emitted` says that
this is all that happens: a document has validators exactly when there is a document under each name
that it reaches (`Catalog.RefersTo`), and otherwise one error is recorded under its name and the
declared values of the type are left alone.

That a document with validators reaches nothing but documents is read off the validators: they have
read all that is reached. For the converse the types that are reached are a closed set of types
whose documents are at hand, so that these are all collected and read (`exists_build`). That the
documents are schemas in form is no assumption but holds of all of them (`check_document`).

What stands under a name may also be the document of a variant, where the type of the name has
none. And an address is looked for in its normal form, below a part of the web that is not the
schema language's own; the two theorems behind the main one show why this is asked for.

`Engine.ofDocuments` registers the documents by their addresses, and `Engine.compile` looks the
address of a type up and calls `Validator.build` for the document and for the list of its values.
`MetaSchema.check` is the check against the schema of schemas, which `check_document` shows to pass.
`count_schemaCompilation` counts in `Report.errorsFor` what `compileAll` could not build.
-/

set_option autoImplicit false

namespace TypeCatalog

open Result

namespace Catalog

/-! ## Errors by their kinds -/

section

variable {settings : Settings} {formats : List Format} {store : Store}

/-- The kinds of problems that are found when validators are built and used. -/
def validatorKinds : List Kind :=
  [.schemaCompilation, .exampleValidation, .testCaseValidation, .testCaseInvalidation,
    .enumItemDataValidation]

/-- Whether a diagnostic is one that a rule found. -/
def IsOfRule (x : Diagnostic) : Prop := ∃ rule : Rule, x.rule = some rule ∧ x.kind = rule.kind

/-- Rules find problems of other kinds, and no circles. -/
theorem IsOfRule.kind_notMem {x : Diagnostic} (h : IsOfRule x) :
    x.kind ∉ .cyclicReference :: validatorKinds := by
  obtain ⟨rule, -, hkind⟩ := h
  rw [hkind]
  cases rule <;> decide

/-- What the check of a shape reports is of the rules. -/
theorem isOfRule_of_mem_violations {vs : List Violation} {label : String} {x : Diagnostic}
    (h : x ∈ vs.map (·.toDiagnostic label)) : IsOfRule x := by
  obtain ⟨v, -, rfl⟩ := List.mem_map.1 h
  exact ⟨v.rule, rfl, rfl⟩

/-- Whether a diagnostic is one that a rule found, other than those about references to types. -/
def IsOfReading (x : Diagnostic) : Prop :=
  ∃ rule : Rule, x.rule = some rule ∧ x.kind = rule.kind ∧ rule ∉ Emitter.referenceRules

/-- What a reading reports is of the rules. -/
theorem IsOfReading.isOfRule {x : Diagnostic} (h : IsOfReading x) : IsOfRule x := by
  obtain ⟨rule, hrule, hkind, -⟩ := h
  exact ⟨rule, hrule, hkind⟩

/-- The rules about the shape and the documentation are not about references. -/
theorem notMem_referenceRules {rule : Rule}
    (h : rule.isDocumentation = true ∨ rule.isOfShape = true) : rule ∉ Emitter.referenceRules := by
  revert h
  cases rule <;> decide

/-- What an entry is left out for is reported by the reading. -/
theorem isOfReading_of_readEntry {taken : List String} {index : Nat} {raw : RawDefinition}
    {es : List Diagnostic} (h : readEntry taken index raw = .error es) {x : Diagnostic}
    (hx : x ∈ es) : IsOfReading x := by
  unfold readEntry at h
  dsimp only at h
  split at h
  · next hviolations =>
      cases h
      obtain ⟨v, hv, rfl⟩ := List.mem_map.1 hx
      rw [← hviolations] at hv
      exact ⟨v.rule, rfl, rfl,
        notMem_referenceRules (.inr (Shape.stays_iff.1 (Shape.stays_violations raw.value) v hv))⟩
  · split at h
    · cases h
      rw [List.mem_singleton.1 hx]
      have hshape : Rule.shape ∉ Emitter.referenceRules := by decide
      exact ⟨.shape, rfl, rfl, hshape⟩
    · split at h
      · cases h
        rw [List.mem_singleton.1 hx]
        exact ⟨.duplicateTypeName, rfl, rfl, by decide⟩
      · cases h

/-- What is found when a store is read is found by rules, and not by those about references. -/
theorem isOfReading_of_mem_readAll {documentation : Bool} {taken : List String} {index : Nat}
    {entries : List RawDefinition} {x : Diagnostic}
    (hx : x ∈ (readAll documentation taken index entries).2) : IsOfReading x := by
  induction entries generalizing taken index with
  | nil => cases hx
  | cons raw rest ih =>
      have hwarnings (h : x ∈ if documentation then
          documentationWarnings (raw.label index) raw.value else []) : IsOfReading x := by
        split at h
        · obtain ⟨w, hw, rfl⟩ := List.mem_map.1 h
          exact ⟨w.rule, rfl, rfl,
            notMem_referenceRules (.inl (Shape.isDocumentation_of_mem_warnings hw))⟩
        · cases h
      cases hentry : readEntry taken index raw with
      | error es =>
          rw [readAll_cons_error hentry] at hx
          rcases List.mem_append.1 hx with hx | hx
          · exact (List.mem_append.1 hx).elim hwarnings (isOfReading_of_readEntry hentry)
          · exact ih hx
      | ok d =>
          rw [readAll_cons_ok hentry] at hx
          exact (List.mem_append.1 hx).elim hwarnings ih

/-- So are references that are not known. -/
theorem isOfRule_of_mem_unresolvedOf {e : Emitter} {ds : List Definition} {x : Diagnostic}
    (hx : x ∈ unresolvedOf (emitAll e ds)) : IsOfRule x := by
  obtain ⟨⟨d, result⟩, -, hx⟩ := List.mem_flatMap.1 hx
  cases result with
  | ok emitted => cases hx
  | error vs => exact isOfRule_of_mem_violations hx

/-- The errors of one of these kinds are found when validators are built, or when declared values
are checked. -/
theorem filter_errors_ofStore {kind : Kind} (hmem : kind ∈ validatorKinds) :
    (ofStore settings formats store).report.errors.filter (·.kind = kind)
      = (schemaProblems (compileAll (engineOf settings formats store)
            (ofStore settings formats store).documents)
          ++ (ofStore settings formats store).definitions.flatMap
            (valueProblems (ofStore settings formats store).validators)).filter
              (·.kind = kind) := by
  have hnone {xs : List Diagnostic} (hxs : ∀ x ∈ xs, IsOfRule x) :
      xs.filter (·.kind = kind) = [] := by
    refine List.filter_eq_nil_iff.2 fun x hx heq => (hxs x hx).kind_notMem ?_
    rw [of_decide_eq_true heq]
    exact .tail _ hmem
  have hcycle : ∀ k ∈ validatorKinds, k.severity = .error ∧ k ≠ .cyclicReference := by decide
  -- Such a kind is an error and no circle, and so it passes both filters.
  have hkind (p : Kind → Prop) [DecidablePred p] (hp : p kind) (xs : List Diagnostic) :
      (xs.filter fun x => p x.kind).filter (·.kind = kind) = xs.filter (·.kind = kind) := by
    rw [List.filter_filter]
    refine List.filter_congr fun x _ => ?_
    by_cases hx : x.kind = kind
    · simp [hx, hp]
    · simp [hx]
  have hfound : (ofStore settings formats store).report.errors.filter (·.kind = kind)
      = (found settings formats store).filter (·.kind = kind) := by
    rw [← hkind (fun k => k ≠ .cyclicReference) (hcycle kind hmem).2, errors_ofStore]
    exact hkind (fun k => k.severity = .error ∧ k ≠ .cyclicReference) (hcycle kind hmem) _
  rw [hfound]
  unfold found problems
  rw [List.filter_append, List.filter_append,
    hnone fun x hx => (isOfReading_of_mem_readAll hx).isOfRule,
    hnone fun x hx => isOfRule_of_mem_unresolvedOf hx, List.nil_append, List.nil_append]

/-- What is reported of schemas is of its own kind. -/
theorem kind_of_mem_schemaProblems {attempts : List (String × Except BuildError TypeValidator)}
    {x : Diagnostic} (hx : x ∈ schemaProblems attempts) : x.kind = .schemaCompilation := by
  obtain ⟨⟨name, result⟩, -, hx⟩ := List.mem_filterMap.1 hx
  cases result with
  | ok t => cases hx
  | error fault =>
      cases hx
      rfl

/-- An error of an example or a test case is found when the declared values are checked. -/
theorem mem_valueProblems_of_mem_errors {x : Diagnostic}
    (hx : x ∈ (ofStore settings formats store).report.errors)
    (hkind : x.kind ∈ [.exampleValidation, .testCaseValidation, .testCaseInvalidation]) :
    x ∈ (ofStore settings formats store).definitions.flatMap
      (valueProblems (ofStore settings formats store).validators) := by
  have hsub : ∀ k ∈ [Kind.exampleValidation, .testCaseValidation, .testCaseInvalidation],
      k ∈ validatorKinds ∧ k ≠ .schemaCompilation := by decide
  obtain ⟨hmem, hother⟩ := hsub _ hkind
  have hfiltered : x ∈ (ofStore settings formats store).report.errors.filter
      (·.kind = x.kind) := List.mem_filter.2 ⟨hx, decide_eq_true rfl⟩
  rw [filter_errors_ofStore hmem] at hfiltered
  refine (List.mem_append.1 (List.mem_filter.1 hfiltered).1).resolve_left fun hschema => ?_
  exact hother (kind_of_mem_schemaProblems hschema)

/-- Each document of a name that has no validator is one problem. -/
theorem length_filter_schemaProblems {e : Engine} {documents : List Document} {name : String} :
    ((schemaProblems (compileAll e documents)).filter (·.typeName = name)).length
      = if (e.compile name).toOption.isSome then 0 else documents.countP (·.typeName = name) := by
  induction documents with
  | nil => simp [compileAll, schemaProblems]
  | cons d documents ih =>
      have hcons : schemaProblems (compileAll e (d :: documents))
          = schemaProblems [(d.typeName, e.compile d.typeName)]
            ++ schemaProblems (compileAll e documents) := by
        unfold schemaProblems compileAll
        rw [List.map_cons, ← List.filterMap_append]
        rfl
      rw [hcons, List.filter_append, List.length_append, ih, List.countP_cons]
      by_cases hname : d.typeName = name
      · subst hname
        cases e.compile d.typeName with
        | ok t => rfl
        | error fault =>
            simp [schemaProblems, schemaProblem, Diagnostic.ofKind, Except.toOption, Nat.add_comm]
      · cases e.compile d.typeName with
        | ok t => simp [schemaProblems, hname]
        | error fault => simp [schemaProblems, hname, schemaProblem, Diagnostic.ofKind]

/-- The errors of validators under a name: one where the name has a document and no validator, and
otherwise none. -/
theorem count_schemaCompilation (hdistinct : ((ofStore settings formats store).documents.map
      (·.typeName)).Nodup) {document : Document}
    (hdocument : document ∈ (ofStore settings formats store).documents) :
    ((ofStore settings formats store).report.errorsFor document.typeName).countP
        (·.kind = .schemaCompilation)
      = if ((ofStore settings formats store).validators.lookup document.typeName).isSome then 0
        else 1 := by
  have hschema : (ofStore settings formats store).report.errors.filter
        (·.kind = .schemaCompilation)
      = schemaProblems (compileAll (engineOf settings formats store)
        (ofStore settings formats store).documents) := by
    rw [filter_errors_ofStore List.mem_cons_self, List.filter_append,
      List.filter_eq_self.2, List.filter_eq_nil_iff.2, List.append_nil]
    · intro x hx
      obtain ⟨d, -, hx⟩ := List.mem_flatMap.1 hx
      have hkind := (isOfValues_of_mem_valueProblems hx).kind
      rw [decide_eq_true_eq]
      rintro heq
      rw [heq] at hkind
      exact absurd hkind (by decide)
    · exact fun x hx => decide_eq_true (kind_of_mem_schemaProblems hx)
  -- The documents have different names, so one attempt is made under each.
  have hone : (ofStore settings formats store).documents.countP (·.typeName = document.typeName)
      = 1 := by
    have hcount := List.count_eq_one_of_mem hdistinct (List.mem_map_of_mem hdocument)
    rw [List.count, List.countP_map] at hcount
    rw [← hcount]
    exact List.countP_congr fun x _ => by simp
  have hlookup : ((ofStore settings formats store).validators.lookup document.typeName).isSome
      = ((engineOf settings formats store).compile document.typeName).toOption.isSome := by
    rw [Bool.eq_iff_iff, Option.isSome_iff_exists, Option.isSome_iff_exists]
    refine exists_congr fun t => ?_
    rw [lookup_validators, and_iff_right ⟨document, hdocument, rfl⟩, toOption_eq_some]
  unfold Report.errorsFor
  rw [List.countP_eq_length_filter, List.filter_filter]
  have hswap : (ofStore settings formats store).report.errors.filter (fun x =>
        decide (x.kind = .schemaCompilation) && decide (x.typeName = document.typeName))
      = ((ofStore settings formats store).report.errors.filter
        (·.kind = .schemaCompilation)).filter (·.typeName = document.typeName) := by
    rw [List.filter_filter]
    exact List.filter_congr fun x _ => Bool.and_comm _ _
  rw [hswap, hschema, length_filter_schemaProblems, hone, hlookup]

end

/-! ## References between documents -/

section

variable (c : Catalog)

/-- Whether the document of a name refers to a type, as the type of a property that it selects. -/
def RefersTo (t u : String) : Prop := ∃ demand, c.demand? t = some demand ∧ u ∈ demand.targets

/-- Whether there is a document under a name. -/
def IsEmitted (t : String) : Prop := ∃ document ∈ c.documents, document.typeName = t

end

section

variable {settings : Settings} {formats : List Format} {store : Store}

/-- What a type refers to is read off the demand of the definition that has its name. -/
theorem refersTo_ofStore_iff {t u : String} : (ofStore settings formats store).RefersTo t u
    ↔ u ∈ ((resolved settings formats store).flatMap (·.demands) |>.lookup t).elim []
      Demand.targets := by
  unfold RefersTo demand?
  rw [demands_ofStore]
  cases ((resolved settings formats store).flatMap (·.demands)).lookup t with
  | none => simp
  | some demand => simp

/-- Names that are closed under references hold all that is reached from a name that refers to
them. -/
theorem mem_of_reaches {names : List String} {t u : String}
    (hclosed : ∀ x ∈ t :: names, ∀ y ∈ ((resolved settings formats store).flatMap (·.demands)
      |>.lookup x).elim [] Demand.targets, y ∈ names)
    (hreach : Relation.TransGen (ofStore settings formats store).RefersTo t u) : u ∈ names := by
  induction hreach with
  | single href => exact hclosed t List.mem_cons_self _ (refersTo_ofStore_iff.1 href)
  | tail _ href ih => exact hclosed _ (.tail _ ih) _ (refersTo_ofStore_iff.1 href)

/-- A type is emitted when one of the resolved definitions has a document of its name. -/
theorem isEmitted_ofStore_iff {t : String} : (ofStore settings formats store).IsEmitted t
    ↔ ∃ document ∈ (resolved settings formats store).flatMap
      (Emitter.ofDomain settings.domain).documentsOf, document.typeName = t := by
  unfold IsEmitted
  simp only [documents_perm_resolved.mem_iff]

end

/-- The assumptions on a batch below a domain of the web:

- `kinds`: no definition is given as a schema;
- `distinct`: documents have different names;
- `fetched`: a reference to a type of the batch leads to its address;
- `patterns`: the patterns of texts can be searched for. -/
structure DependencyHypotheses (settings : Settings) (formats : List Format) (store : Store) :
    Prop where
  domain : IsWebDomain settings.domain
  kinds : ∀ d ∈ (ofStore settings formats store).definitions, d.kind ≠ .object
  distinct : ((ofStore settings formats store).documents.map (·.typeName)).Nodup
  fetched : ∀ d ∈ (ofStore settings formats store).definitions, ∀ entry ∈ d.demands,
    ∀ t ∈ entry.1 :: entry.2.targets, (Emitter.ofDomain settings.domain).IsFetched t
  patterns : ∀ d ∈ (ofStore settings formats store).definitions, ∀ entry ∈ d.demands,
    entry.2.isSearchable = true

namespace DependencyHypotheses

variable {settings : Settings} {formats : List Format} {store : Store}
  (h : DependencyHypotheses settings formats store)

include h

/-- What is fetched is apart from the documents of the schema language. -/
theorem meaning : MeaningHypotheses settings formats store := by
  refine ⟨h.domain, h.kinds, h.distinct, fun d hd entry hentry t ht u hu => ?_⟩
  have hfetched := h.fetched d hd entry hentry t (.tail _ ht)
  obtain ⟨u', hu', htext⟩ := hfetched.normal
  obtain rfl : u = u' := Except.ok.inj (hu.symm.trans hu')
  rw [Option.eq_none_iff_forall_ne_some]
  intro resource hresource
  have hspec := MetaSchema.isSpecification_of_resource hresource
  rw [htext, hfetched.foreign] at hspec
  cases hspec

omit h in
/-- What has a demand has a document, and the other way round. -/
theorem isEmitted_of_demand? (hkinds : ∀ d ∈ (ofStore settings formats store).definitions,
      d.kind ≠ .object) {t : String} {demand : Demand}
    (hdemand : (ofStore settings formats store).demand? t = some demand) :
    (ofStore settings formats store).IsEmitted t := by
  obtain ⟨d, hd, hentry⟩ := MeaningHypotheses.exists_of_demand?_eq_some hdemand
  have hname : t ∈ ((Emitter.ofDomain settings.domain).documentsOf d).map (·.typeName) := by
    rw [Emitter.typeNames_documentsOf,
      ← Definition.map_fst_demands (hkinds d (mem_resolvedOf.1 hd).1)]
    exact List.mem_map_of_mem hentry
  obtain ⟨document, hdocument, hname⟩ := List.mem_map.1 hname
  exact ⟨document, mem_documents.2 ⟨d, hd, hdocument⟩, hname⟩

/-- A document with a validator reaches nothing but documents. -/
theorem isEmitted_of_reaches {document : Document}
    (hdocument : document ∈ (ofStore settings formats store).documents) {v : Validator}
    (hbuild : (engineOf settings formats store).build document.schema = .ok v) {u : String}
    (hreach : Relation.TransGen (ofStore settings formats store).RefersTo document.typeName u) :
    (ofStore settings formats store).IsEmitted u := by
  obtain ⟨r, demand, hdemand, -, hreads, hsettled⟩ := h.meaning.reads_of_build hdocument hbuild
  -- Each document on the way was read.
  have hread : ∃ demand', (ofStore settings formats store).demand? u = some demand'
      ∧ ∃ s, r.Reads (.ofDomain settings.domain) (v.definitions.map Prod.fst) demand' s := by
    induction hreach with
    | single href =>
        obtain ⟨demand', hdemand', hu⟩ := href
        cases hdemand.symm.trans hdemand'
        exact Reader.exists_reads_of_mem_targets hreads hsettled hu
    | tail _ href ih =>
        obtain ⟨demand', hdemand', s, hs⟩ := ih
        obtain ⟨demand'', hdemand'', hu⟩ := href
        cases hdemand'.symm.trans hdemand''
        exact Reader.exists_reads_of_mem_targets hs hsettled hu
  obtain ⟨demand', hdemand', -⟩ := hread
  exact isEmitted_of_demand? h.kinds hdemand'

/-- The types that a document reaches, when each of them has a document, are a closed set. -/
theorem isClosed {t : String} (ht : (ofStore settings formats store).IsEmitted t)
    (hreach : ∀ u, Relation.TransGen (ofStore settings formats store).RefersTo t u →
      (ofStore settings formats store).IsEmitted u) :
    (Emitter.ofDomain settings.domain).IsClosed (engineOf settings formats store).documents
      (ofStore settings formats store).demand?
      (Relation.ReflTransGen (ofStore settings formats store).RefersTo t) := by
  have hemitted {u : String}
      (hu : Relation.ReflTransGen (ofStore settings formats store).RefersTo t u) :
      (ofStore settings formats store).IsEmitted u := by
    rcases Relation.reflTransGen_iff_eq_or_transGen.1 hu with rfl | hu
    · exact ht
    · exact hreach u hu
  refine ⟨fun u hu => ?_, fun u hu => ?_,
    fun u hu demand hdemand w hw => hu.tail ⟨demand, hdemand, hw⟩⟩
  · obtain ⟨document, hdocument, rfl⟩ := hemitted hu
    obtain ⟨header, demand, hdemand, -⟩ := (h.meaning.describes hdocument).demand
    obtain ⟨d, hd, hentry⟩ := MeaningHypotheses.exists_of_demand?_eq_some hdemand
    exact h.fetched d (mem_resolvedOf.1 hd).1 _ hentry _ List.mem_cons_self
  · obtain ⟨document, hdocument, rfl⟩ := hemitted hu
    obtain ⟨-, hschema⟩ := lookup_engineOf h.distinct hdocument
    rw [uri_of_mem_documents hdocument] at hschema
    exact ⟨document.schema, hschema, h.meaning.describes hdocument⟩

/-- A document, and the schema of lists over it, satisfy the schema of schemas. -/
theorem check_document {document : Document}
    (hdocument : document ∈ (ofStore settings formats store).documents) :
    MetaSchema.check document.schema = .ok ()
      ∧ MetaSchema.check (Engine.listSchema document.uri) = .ok () := by
  obtain ⟨hname, header, demand, hdemand, hwellFormed, htargets, hschema⟩ :=
    h.meaning.describes hdocument
  obtain ⟨d, hd, hentry⟩ := MeaningHypotheses.exists_of_demand?_eq_some hdemand
  obtain ⟨hdefinition, -⟩ := mem_resolvedOf.1 hd
  have huris : ∀ u ∈ document.typeName :: demand.targets,
      Format.isReference false false ((Emitter.ofDomain settings.domain).uri u) = true :=
    fun u hu => (h.fetched d hdefinition _ hentry u hu).isReference h.domain
      (List.forall_mem_cons.2 ⟨hname, htargets⟩ u hu)
  constructor
  · rw [hschema]
    refine MetaSchema.check_of_isSchema (MetaSchema.isSchema_demandSchema hwellFormed
      (h.patterns d hdefinition _ hentry) ?_ huris)
    rintro system properties required rfl
    exact (wellFormed_of_mem hdefinition).required_nodup hentry
  · rw [uri_of_mem_documents hdocument]
    exact MetaSchema.check_of_isSchema (MetaSchema.isSchema_listSchema
      (huris _ List.mem_cons_self))

/-- A document that reaches nothing but documents has validators. -/
theorem exists_compile {document : Document}
    (hdocument : document ∈ (ofStore settings formats store).documents)
    (hreach : ∀ u, Relation.TransGen (ofStore settings formats store).RefersTo document.typeName u →
      (ofStore settings formats store).IsEmitted u) :
    ∃ t, (engineOf settings formats store).compile document.typeName = .ok t := by
  have hclosed := h.isClosed ⟨document, hdocument, rfl⟩ hreach
  have hsearch : ∀ u,
      Relation.ReflTransGen (ofStore settings formats store).RefersTo document.typeName u →
      ∀ demand, (ofStore settings formats store).demand? u = some demand →
        demand.isSearchable = true := by
    intro u _ demand hdemand
    obtain ⟨d, hd, hentry⟩ := MeaningHypotheses.exists_of_demand?_eq_some hdemand
    exact h.patterns d (mem_resolvedOf.1 hd).1 _ hentry
  obtain ⟨hcheck, hcheckList⟩ := h.check_document hdocument
  exact h.meaning.exists_compile hclosed hsearch hdocument .refl hcheck hcheckList

end DependencyHypotheses

variable {settings : Settings} {formats : List Format} {store : Store}

/-- A missing document blocks exactly what depends on it. -/
theorem compiled_iff_reached_emitted (h : DependencyHypotheses settings formats store)
    {document : Document} (hdocument : document ∈ (ofStore settings formats store).documents) :
    (((ofStore settings formats store).validators.lookup document.typeName).isSome = true ↔
      ∀ u, Relation.TransGen (ofStore settings formats store).RefersTo document.typeName u →
        (ofStore settings formats store).IsEmitted u)
    ∧ (((ofStore settings formats store).report.errorsFor document.typeName).countP
          (·.kind = .schemaCompilation)
        = if ((ofStore settings formats store).validators.lookup document.typeName).isSome then 0
          else 1)
    ∧ ((ofStore settings formats store).validators.lookup document.typeName = none →
      ∀ x ∈ (ofStore settings formats store).report.errorsFor document.typeName,
        x.kind ∉ [.exampleValidation, .testCaseValidation, .testCaseInvalidation]) := by
  refine ⟨?_, count_schemaCompilation h.distinct hdocument, fun hnone x hx hkind => ?_⟩
  · rw [Option.isSome_iff_exists]
    constructor
    · rintro ⟨t, ht⟩ u hu
      obtain ⟨-, hcompile⟩ := lookup_validators.1 ht
      obtain ⟨haddress, hschema⟩ := lookup_engineOf h.distinct hdocument
      exact h.isEmitted_of_reaches hdocument
        (build_of_compile_eq_ok haddress hschema hcompile).1 hu
    · intro hreach
      obtain ⟨t, ht⟩ := h.exists_compile hdocument hreach
      exact ⟨t, lookup_validators.2 ⟨⟨document, hdocument, rfl⟩, ht⟩⟩
  · -- A declared value under the name is one of a definition of the name, which has no validator.
    obtain ⟨hx, hname⟩ := List.mem_filter.1 hx
    obtain ⟨d, -, hx⟩ := List.mem_flatMap.1 (mem_valueProblems_of_mem_errors hx hkind)
    have htypeName := (isOfValues_of_mem_valueProblems hx).typeName
    unfold valueProblems at hx
    rw [← htypeName, of_decide_eq_true hname, hnone] at hx
    cases hx

/-- A store with two enums whose data types are missing. A record refers to the first one and has a
variant that does not, a second record refers to the first record, and a third one to the second
enum, which has the name of the variant. -/
def brokenStore : Store := ⟨[
  ⟨none, .object [("kind", .string "bool"), ("system", .string "test"), ("name", .string "flag")]⟩,
  ⟨none, .object [("kind", .string "enum"), ("system", .string "test"), ("name", .string "role"),
    ("items", .array [.object [("value", .string "a"), ("text", .string "A")]]),
    ("dataType", .string "missing")]⟩,
  ⟨none, .object [("kind", .string "enum"), ("system", .string "test"),
    ("name", .string "teamShort"),
    ("items", .array [.object [("value", .string "a"), ("text", .string "A")]]),
    ("dataType", .string "missing")]⟩,
  ⟨none, .object [("kind", .string "record"), ("system", .string "test"), ("name", .string "team"),
    ("properties", .array
      [.object [("name", .string "lead"), ("propertyType", .string "role")],
        .object [("name", .string "active"), ("propertyType", .string "flag")]]),
    ("variants", .array [.object [("name", .string "short"),
      ("includeProperties", .array [.string "active"])]]),
    ("validTestCases", .array [])]⟩,
  ⟨none, .object [("kind", .string "record"), ("system", .string "test"), ("name", .string "club"),
    ("properties", .array [.object [("name", .string "team"), ("propertyType", .string "team")]]),
    ("validTestCases", .array [])]⟩,
  ⟨none, .object [("kind", .string "record"), ("system", .string "test"), ("name", .string "guild"),
    ("properties", .array
      [.object [("name", .string "team"), ("propertyType", .string "teamShort")]]),
    ("validTestCases", .array [])]⟩]⟩

/-- The hypotheses hold of the batch with the missing enum. -/
theorem dependencyHypotheses_brokenStore : DependencyHypotheses .standard [] brokenStore := by
  refine ⟨⟨⟨"https".toList, "jsonotron.org".toList, by decide, by decide⟩, by decide, by decide⟩,
    ?_, ?_, ?_, ?_⟩
  · rw [definitions_ofStore]
    decide +kernel
  · rw [(documents_perm_resolved.map (·.typeName)).nodup_iff]
    decide +kernel
  · rw [definitions_ofStore]
    decide +kernel
  · rw [definitions_ofStore]
    decide +kernel

/-- These types of it have documents. -/
theorem isEmitted_brokenStore :
    ∀ t ∈ ["test/flag", "test/club", "test/guild", "test/teamShort"],
      (ofStore .standard [] brokenStore).IsEmitted t := by
  intro t ht
  rw [isEmitted_ofStore_iff]
  revert t
  decide +kernel

/-- The record in front has no validator, since the enum behind the other record has no document;
the variant that leaves the enum out has one. -/
theorem compiled_iff_reached_emitted_brokenStore :
    DependencyHypotheses .standard [] brokenStore
      ∧ (ofStore .standard [] brokenStore).validators.lookup "test/club" = none
      ∧ ((ofStore .standard [] brokenStore).report.errorsFor "test/club").countP
          (·.kind = .schemaCompilation) = 1
      ∧ ((ofStore .standard [] brokenStore).validators.lookup "test/teamShort").isSome = true := by
  obtain ⟨club, hclub, hclubName⟩ := isEmitted_brokenStore "test/club" (by decide)
  obtain ⟨short, hshort, hshortName⟩ := isEmitted_brokenStore "test/teamShort" (by decide)
  obtain ⟨hclubIff, hclubCount, -⟩ :=
    compiled_iff_reached_emitted dependencyHypotheses_brokenStore hclub
  obtain ⟨hshortIff, -, -⟩ :=
    compiled_iff_reached_emitted dependencyHypotheses_brokenStore hshort
  rw [hclubName] at hclubIff hclubCount
  rw [hshortName] at hshortIff
  have hrole : ¬ (ofStore .standard [] brokenStore).IsEmitted "test/role" := by
    rw [isEmitted_ofStore_iff]
    decide +kernel
  have hreach : Relation.TransGen (ofStore .standard [] brokenStore).RefersTo
      "test/club" "test/role" := by
    have hteam : (ofStore .standard [] brokenStore).RefersTo "test/club" "test/team" := by
      rw [refersTo_ofStore_iff]
      decide +kernel
    refine .tail (.single hteam) ?_
    rw [refersTo_ofStore_iff]
    decide +kernel
  -- The record refers to the team, and the team to the enum that is not emitted.
  have hnone : (ofStore .standard [] brokenStore).validators.lookup "test/club" = none := by
    rw [← Option.not_isSome_iff_eq_none, hclubIff]
    exact fun hall => hrole (hall _ hreach)
  rw [hnone] at hclubCount
  refine ⟨dependencyHypotheses_brokenStore, hnone, hclubCount, hshortIff.2 fun u hu => ?_⟩
  have hmem := @mem_of_reaches .standard [] brokenStore ["test/flag"] _ _ (by decide +kernel) hu
  rw [List.mem_singleton.1 hmem]
  exact isEmitted_brokenStore _ (by decide)

/-! ## Names of variants, and addresses

Below a domain in capital letters, or one where the schema language has its own documents, the
address of a type leads elsewhere, and then not even a flag has a validator for lists. And where a
type without a document has the name of a variant, what refers to the type gets the document of the
variant. -/

/-- The settings for a domain. -/
def domainSettings (domain : String) : Settings := { Settings.standard with domain }

/-- A store with a flag. -/
def soleStore : Store := ⟨[
  ⟨none, .object [("kind", .string "bool"), ("system", .string "test"), ("name", .string "flag")]⟩]⟩

/-- The document of the flag. -/
def soleDocument (domain : String) : Document :=
  ⟨"test/flag", domain ++ "/test/flag", .object
    [("$schema", .string Emitter.draft), ("$id", .string (domain ++ "/test/flag")),
      ("title", .string "Flag"), ("type", .string "boolean")]⟩

/-- Domains below which the address of a type leads elsewhere. -/
def strayDomains : List String := ["https://A.org", "https://json-schema.org/draft/2019-09"]

/-- The batch of the flag has one document. -/
theorem documents_soleStore {domain : String} (hdomain : domain ∈ strayDomains) :
    (ofStore (domainSettings domain) [] soleStore).documents = [soleDocument domain] := by
  have hall : ∀ domain ∈ strayDomains,
      (resolved (domainSettings domain) [] soleStore).flatMap
        (Emitter.ofDomain (domainSettings domain).domain).documentsOf = [soleDocument domain] := by
    decide +kernel
  refine List.perm_singleton.1 ?_
  rw [← hall domain hdomain]
  exact documents_perm_resolved

set_option maxRecDepth 100000 in
/-- The schema of its lists cannot be read below these domains. -/
theorem read?_soleStore : ∀ domain ∈ strayDomains,
    (read? [((soleDocument domain).uri, (soleDocument domain).schema)]
      (Engine.listSchema (soleDocument domain).uri)).isNone = true := by
  decide +kernel

/-- So the flag has no validator there. -/
theorem lookup_soleStore {domain : String} (hdomain : domain ∈ strayDomains) :
    (ofStore (domainSettings domain) [] soleStore).validators.lookup "test/flag" = none := by
  rw [← Option.not_isSome_iff_eq_none, Option.isSome_iff_exists]
  rintro ⟨t, ht⟩
  obtain ⟨-, hcompile⟩ := lookup_validators.1 ht
  have hengine : engineOf (domainSettings domain) [] soleStore
      = ⟨[((soleDocument domain).uri, (soleDocument domain).schema)],
        [("test/flag", (soleDocument domain).uri)], [], true⟩ := by
    unfold engineOf
    rw [Engine.ofDocuments_eq, documents_soleStore hdomain]
    rfl
  have haddress : (engineOf (domainSettings domain) [] soleStore).addresses.lookup "test/flag"
      = some (soleDocument domain).uri := by
    rw [hengine]
    exact List.lookup_cons_self
  have hschema : (engineOf (domainSettings domain) [] soleStore).documents.lookup
      (soleDocument domain).uri = some (soleDocument domain).schema := by
    rw [hengine]
    exact List.lookup_cons_self
  obtain ⟨-, hlist⟩ := build_of_compile_eq_ok haddress hschema hcompile
  rw [hengine, Engine.build_eq_ok] at hlist
  have hread := read?_of_build hlist
  have hnone := read?_soleStore domain hdomain
  rw [hread] at hnone
  cases hnone

/-- A flag refers to nothing and yet has no validator, below two domains; and a record has one that
refers to an enum without a document. -/
theorem compiled_ne_reached_emitted :
    (∀ domain ∈ strayDomains, IsWebDomain domain
      ∧ (∀ d ∈ (ofStore (domainSettings domain) [] soleStore).definitions, d.kind ≠ .object)
      ∧ ((ofStore (domainSettings domain) [] soleStore).documents.map (·.typeName)).Nodup
      ∧ (ofStore (domainSettings domain) [] soleStore).IsEmitted "test/flag"
      ∧ (∀ u, ¬ (ofStore (domainSettings domain) [] soleStore).RefersTo "test/flag" u)
      ∧ (ofStore (domainSettings domain) [] soleStore).validators.lookup "test/flag" = none)
    ∧ IsWebDomain Settings.standard.domain
    ∧ (∀ d ∈ (ofStore .standard [] brokenStore).definitions, d.kind ≠ .object)
    ∧ ((ofStore .standard [] brokenStore).documents.map (·.typeName)).Nodup
    ∧ (ofStore .standard [] brokenStore).RefersTo "test/guild" "test/teamShort"
    ∧ (∃ d ∈ (ofStore .standard [] brokenStore).definitions, d.typeName = "test/teamShort"
      ∧ (ofStore .standard [] brokenStore).emitted.lookup d.typeName = none)
    ∧ ((ofStore .standard [] brokenStore).validators.lookup "test/guild").isSome = true := by
  have h := dependencyHypotheses_brokenStore
  refine ⟨fun domain hdomain => ⟨?_, ?_, ?_, ?_, fun u href => ?_, lookup_soleStore hdomain⟩,
    h.domain, h.kinds, h.distinct, ?_, ?_, ?_⟩
  · rcases List.mem_pair.1 hdomain with rfl | rfl
    · exact ⟨⟨"https".toList, "A.org".toList, by decide, by decide⟩, by decide, by decide⟩
    · exact ⟨⟨"https".toList, "json-schema.org/draft/2019-09".toList, by decide, by decide⟩,
        by decide, by decide⟩
  · rw [definitions_ofStore]
    revert domain
    decide +kernel
  · rw [documents_soleStore hdomain]
    exact List.nodup_singleton _
  · refine ⟨soleDocument domain, ?_, rfl⟩
    rw [documents_soleStore hdomain]
    exact List.mem_cons_self
  · have hnil : ∀ domain ∈ strayDomains,
        ((resolved (domainSettings domain) [] soleStore).flatMap (·.demands)
          |>.lookup "test/flag").elim [] Demand.targets = [] := by decide +kernel
    rw [refersTo_ofStore_iff, hnil domain hdomain] at href
    cases href
  · rw [refersTo_ofStore_iff]
    decide +kernel
  · have hlookup : ∀ d ∈ (ofStore .standard [] brokenStore).definitions,
        isResolved (.ofDomain Settings.standard.domain)
          (ofStore .standard [] brokenStore).definitions d = false →
        (ofStore .standard [] brokenStore).emitted.lookup d.typeName = none := by
      intro d hd hunresolved
      rw [emitted_ofStore, lookup_emittedOf typeNames_nodup hd, hunresolved]
      rfl
    have hexists : ∃ d ∈ (ofStore .standard [] brokenStore).definitions,
        d.typeName = "test/teamShort" ∧ isResolved (.ofDomain Settings.standard.domain)
          (ofStore .standard [] brokenStore).definitions d = false := by
      rw [definitions_ofStore]
      decide +kernel
    obtain ⟨d, hd, hname, hunresolved⟩ := hexists
    exact ⟨d, hd, hname, hlookup d hd hunresolved⟩
  · obtain ⟨guild, hguild, hname⟩ := isEmitted_brokenStore "test/guild" (by decide)
    obtain ⟨t, ht⟩ := h.exists_compile hguild fun u hu => by
      rw [hname] at hu
      have hmem := @mem_of_reaches .standard [] brokenStore ["test/teamShort", "test/flag"] _ _
        (by decide +kernel) hu
      have hsub : ∀ x ∈ ["test/teamShort", "test/flag"],
          x ∈ ["test/flag", "test/club", "test/guild", "test/teamShort"] := by decide
      exact isEmitted_brokenStore u (hsub u hmem)
    rw [← hname, Option.isSome_iff_exists]
    exact ⟨t, lookup_validators.2 ⟨⟨guild, hguild, rfl⟩, ht⟩⟩

end Catalog

end TypeCatalog
