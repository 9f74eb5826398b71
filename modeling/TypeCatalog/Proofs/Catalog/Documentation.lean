import TypeCatalog.Proofs.Catalog.Insertion

/-!
# Documentation is advice

The settings say whether the documentation of the definitions is checked. This file compares the two
batches that a store gives with the check and without it.

The check takes place while the store is read, before it is known whether a definition is left out.
`readAll_documentation` says what it does there: the definitions that are read and the errors that
are found are the same, and all the warnings are notes of the check, those on definitions that are
left out among them. Everything else in a batch is made of the definitions, so nothing else can
differ. `ofStore_documentation` puts this together.

The switch is `Settings.documentation`, which `readAll` gets as its first argument.
`documentationWarnings` is what it adds for one raw definition; the errors come from `readEntry`,
which does not see the switch.
-/

set_option autoImplicit false

namespace TypeCatalog

open Shape

/-! ## Reading a store -/

/-- What the documentation of a raw definition lacks, told under its label. -/
def RawDefinition.notes (raw : RawDefinition) (index : Nat) : List Diagnostic :=
  ((documented raw.value).filter (·.rule.isDocumentation)).map (·.toDiagnostic (raw.label index))

/-- The warnings about a raw definition are its notes. -/
theorem documentationWarnings_eq_notes (raw : RawDefinition) (index : Nat) :
    documentationWarnings (raw.label index) raw.value = raw.notes index := by
  unfold documentationWarnings RawDefinition.notes
  rw [warnings_eq_filter]

/-- Notes are warnings. -/
theorem RawDefinition.kind_of_mem_notes {raw : RawDefinition} {index : Nat} {x : Diagnostic}
    (h : x ∈ raw.notes index) : x.kind = .documentation := by
  obtain ⟨v, hv, rfl⟩ := List.mem_map.1 h
  exact of_decide_eq_true (List.mem_filter.1 hv).2

/-- Why a definition is left out is told by errors. -/
theorem isError_of_readEntry_eq_error {taken : List String} {index : Nat} {raw : RawDefinition}
    {es : List Diagnostic} (h : readEntry taken index raw = .error es) : ∀ x ∈ es, x.IsError := by
  unfold readEntry at h
  dsimp only at h
  split at h
  · next hviolations =>
      cases h
      intro x hx
      obtain ⟨v, hv, rfl⟩ := List.mem_map.1 hx
      rw [← hviolations] at hv
      exact Diagnostic.isError_of_not_isDocumentation (not_isDocumentation_of_mem_violations hv) _
  · split at h
    · cases h
      exact List.forall_mem_singleton.2 rfl
    · split at h
      · cases h
        exact List.forall_mem_singleton.2 rfl
      · cases h

/-- Of diagnostics of one severity all are kept or none. -/
theorem Diagnostic.filter_severity {ds : List Diagnostic} {s : Severity}
    (h : ∀ x ∈ ds, x.severity = s) (t : Severity) :
    ds.filter (·.severity = t) = if s = t then ds else [] := by
  split_ifs with hst
  · exact List.filter_eq_self.2 fun x hx => decide_eq_true ((h x hx).trans hst)
  · exact List.filter_eq_nil_iff.2 fun x hx hxt =>
      hst ((h x hx).symm.trans (of_decide_eq_true hxt))

/-- The check of the documentation reads the same definitions and finds the same errors. What it
adds are its notes on every raw definition, in the order of the store. -/
theorem readAll_documentation (documentation : Bool) (taken : List String) (index : Nat)
    (entries : List RawDefinition) :
    (readAll documentation taken index entries).1 = (readAll false taken index entries).1
    ∧ (readAll documentation taken index entries).2.filter (·.severity = .error)
      = (readAll false taken index entries).2.filter (·.severity = .error)
    ∧ (readAll documentation taken index entries).2.filter (·.severity = .warning)
      = if documentation then
          (entries.zipIdx index).flatMap fun entry => entry.1.notes entry.2
        else [] := by
  induction entries generalizing taken index with
  | nil =>
      simp only [readAll_nil, List.filter_nil, List.zipIdx_nil, List.flatMap_nil, ite_self,
        and_self]
  | cons raw rest ih =>
      have hnotes : ∀ x ∈ (if documentation then raw.notes index else []),
          x.severity = .warning := by
        intro x hx
        split at hx
        · exact congrArg Kind.severity (RawDefinition.kind_of_mem_notes hx)
        · cases hx
      -- The head adds its notes to the warnings, whether it is left out or not.
      have hwarnings (ws : List Diagnostic)
          (hws : ws = if documentation then
            (rest.zipIdx (index + 1)).flatMap fun entry => entry.1.notes entry.2 else []) :
          (if documentation then raw.notes index else []) ++ ws
            = if documentation then
                ((raw :: rest).zipIdx index).flatMap fun entry => entry.1.notes entry.2
              else [] := by
        rw [hws, List.zipIdx_cons, List.flatMap_cons]
        cases documentation <;> rfl
      -- A definition that is left out keeps its notes, with its errors behind them.
      cases hraw : readEntry taken index raw with
      | error es =>
          obtain ⟨hdefinitions, herrors, hrest⟩ := ih taken (index + 1)
          have hes : ∀ x ∈ es, x.severity = .error := isError_of_readEntry_eq_error hraw
          simp only [readAll_cons_error hraw, documentationWarnings_eq_notes, List.filter_append,
            Diagnostic.filter_severity hnotes, Diagnostic.filter_severity hes]
          refine ⟨hdefinitions, ?_, ?_⟩
          · rw [herrors]
            rfl
          · exact (congrArg (· ++ _) (List.append_nil _)).trans (hwarnings _ hrest)
      | ok d =>
          obtain ⟨hdefinitions, herrors, hrest⟩ := ih (d.typeName :: taken) (index + 1)
          simp only [readAll_cons_ok hraw, documentationWarnings_eq_notes, List.filter_append,
            Diagnostic.filter_severity hnotes]
          refine ⟨congrArg (d :: ·) hdefinitions, ?_, hwarnings _ hrest⟩
          rw [herrors]
          rfl

namespace Catalog

/-! ## Two batches of one store -/

variable (settings : Settings) (formats : List Format) (store : Store)

/-- The check of the documentation changes nothing of a batch but its report. -/
theorem exists_ofStore_documentation (documentation : Bool) :
    ∃ report, ofStore { settings with documentation := documentation } formats store
      = { ofStore { settings with documentation := false } formats store with
          report := report } := by
  have hdefinitions := (readAll_documentation documentation [] 0 store.entries).1
  unfold ofStore
  dsimp only
  rw [hdefinitions]
  exact ⟨_, rfl⟩

/-- Batches that differ in their reports give the same answers about every name. -/
theorem agrees_of_eq {c c' : Catalog} {report : Report} (h : c' = { c with report := report }) :
    c.Agrees c' := by
  subst h
  exact ⟨rfl, fun _ _ => rfl, fun _ _ => rfl, fun _ _ => rfl, fun _ _ _ => rfl,
    fun _ _ _ => rfl, rfl⟩

/-- The stages behind the reading of the store report the same. -/
theorem problems_documentation :
    problems { settings with documentation := true } formats store
      = problems { settings with documentation := false } formats store := by
  obtain ⟨report, hreport⟩ := exists_ofStore_documentation settings formats store true
  unfold problems engineOf
  rw [hreport]
  rfl

/-- Whether the documentation is checked makes no difference but for the warnings. The errors are
the same, in the same order, and so are the definitions, their documents, all validators and the
type map, and with them the answers about every name. Without the check there are no warnings. With
it they are the notes on every raw definition in the order of the store, be the definition left out
or not, and each of them is about documentation. -/
theorem ofStore_documentation :
    let plain := ofStore { settings with documentation := false } formats store
    let noted := ofStore { settings with documentation := true } formats store
    noted.report.errors = plain.report.errors
    ∧ noted.emitted = plain.emitted
    ∧ noted.validators = plain.validators
    ∧ plain.Agrees noted
    ∧ plain.report.warnings = []
    ∧ (∀ x ∈ noted.report.warnings, x.kind = .documentation)
    ∧ noted.report.warnings = store.entries.zipIdx.flatMap fun entry =>
        ((documented entry.1.value).filter (·.rule.isDocumentation)).map
          (·.toDiagnostic (entry.1.label entry.2)) := by
  intro plain noted
  obtain ⟨report, hreport⟩ := exists_ofStore_documentation settings formats store true
  have hnoted : noted = { plain with report := report } := hreport
  have hagrees : plain.Agrees noted := agrees_of_eq hnoted
  have hread (documentation : Bool) :=
    readAll_documentation documentation [] 0 store.entries
  have hwarnings : noted.report.warnings = store.entries.zipIdx.flatMap fun entry =>
      entry.1.notes entry.2 :=
    (warnings_ofStore _ formats store).trans (hread true).2.2
  refine ⟨?_, by rw [hnoted], by rw [hnoted], hagrees, ?_, ?_, hwarnings⟩
  · have hmap : noted.typeMap = plain.typeMap := hagrees.typeMap
    have hfound : (found { settings with documentation := true } formats store).filter
          (·.severity = .error)
        = (found { settings with documentation := false } formats store).filter
          (·.severity = .error) := by
      unfold found
      rw [List.filter_append, List.filter_append, problems_documentation]
      exact congrArg (· ++ _) (hread true).2.1
    exact (errors_report _ formats store).trans
      ((congrArg₂ (fun xs m => xs ++ (TypeMap.cycles m).filter (·.severity = .error)) hfound
        hmap).trans (errors_report _ formats store).symm)
  · exact (warnings_ofStore _ formats store).trans (hread false).2.2
  · intro x hx
    rw [hwarnings] at hx
    obtain ⟨entry, -, hx⟩ := List.mem_flatMap.1 hx
    exact RawDefinition.kind_of_mem_notes hx

end Catalog

end TypeCatalog
