import Mathlib.Data.List.Perm.Basic
import TypeCatalog.Diagnostic

/-!
# Reports

A report keeps two lists, so what it was told in one order is kept in two. `push` looks at the
severity of a diagnostic to choose the list, and `extend` does it one diagnostic after the other.
`merge` does not look at any: it takes it that the other report has its diagnostics in their places.
That is so for every report that was built with these three, and a `History` says how one was.

What is recorded in a history, in its order, is all that matters (`History.report_eq_ofList`), and
`History.report_files` says how it is filed: the errors and the warnings are those recorded, each in
the order in which they were, and whether a batch is successful depends on what is recorded only.
-/

set_option autoImplicit false

namespace TypeCatalog

/-- Whether a diagnostic keeps a batch from being successful. -/
def Diagnostic.IsError (d : Diagnostic) : Prop := d.severity = .error

open Diagnostic

/-! ## Steps -/

namespace Report

/-- `push` appends a diagnostic to one of the two lists: filtering the singleton by both severities
says which. -/
theorem push_eq (r : Report) (d : Diagnostic) :
    r.push d = ⟨r.errors ++ [d].filter (·.severity = .error),
      r.warnings ++ [d].filter (·.severity = .warning)⟩ := by
  unfold push
  cases h : d.severity with
  | error => simp [h]
  | warning => simp [h]

/-- `extend` appends to both lists, each in the order of the diagnostics. -/
theorem extend_eq (r : Report) (ds : List Diagnostic) :
    r.extend ds = ⟨r.errors ++ ds.filter (·.severity = .error),
      r.warnings ++ ds.filter (·.severity = .warning)⟩ := by
  unfold extend
  induction ds generalizing r with
  | nil => rw [List.foldl_nil, List.filter_nil, List.filter_nil, List.append_nil, List.append_nil]
  | cons d ds ih =>
      rw [List.foldl_cons, ih, push_eq, List.append_assoc, List.append_assoc, ← List.filter_append,
        ← List.filter_append, List.singleton_append]

/-- The errors of an extended report are the old ones and then the new ones. -/
theorem errors_extend (r : Report) (ds : List Diagnostic) :
    (r.extend ds).errors = r.errors ++ ds.filter (·.severity = .error) :=
  congrArg errors (r.extend_eq ds)

/-- The warnings of an extended report are the old ones and then the new ones. -/
theorem warnings_extend (r : Report) (ds : List Diagnostic) :
    (r.extend ds).warnings = r.warnings ++ ds.filter (·.severity = .warning) :=
  congrArg warnings (r.extend_eq ds)

/-- A report stays successful when no error is added to it. -/
theorem isSuccessful_extend (r : Report) (ds : List Diagnostic) :
    (r.extend ds).isSuccessful = true ↔ r.isSuccessful = true ∧ ∀ d ∈ ds, ¬ d.IsError := by
  unfold isSuccessful
  rw [errors_extend]
  simp [IsError]

/-- A report made by `ofList` is successful exactly when none of its diagnostics is an error. -/
theorem isSuccessful_ofList (ds : List Diagnostic) :
    (ofList ds).isSuccessful = true ↔ ∀ d ∈ ds, ¬ d.IsError :=
  (isSuccessful_extend empty ds).trans (and_iff_right rfl)

/-- Extending twice is extending once by both lists, one behind the other. -/
theorem extend_extend (r : Report) (ds es : List Diagnostic) :
    (r.extend ds).extend es = r.extend (ds ++ es) :=
  List.foldl_append.symm

/-- To merge the report of a list is to record the list. -/
theorem merge_ofList (r : Report) (ds : List Diagnostic) : r.merge (ofList ds) = r.extend ds := by
  rw [r.extend_eq, ofList, extend_eq]
  rfl

/-! ## What a report says -/

/-- Whether a report files diagnostics: none is lost, kept twice or put with the wrong ones. -/
structure Files (r : Report) (ds : List Diagnostic) : Prop where
  errors : r.errors = ds.filter (·.severity = .error)
  warnings : r.warnings = ds.filter (·.severity = .warning)
  /-- Each is kept as often as it is there, and no other is. -/
  kept : (r.errors ++ r.warnings).Perm ds
  isSuccessful : r.isSuccessful = true ↔ ∀ d ∈ ds, ¬ d.IsError
  check_ok : r.check = .ok () ↔ ∀ d ∈ ds, ¬ d.IsError
  check_error : ∀ es, r.check = .error es ↔ es = r.errors ∧ ∃ d ∈ ds, d.IsError
  errorsFor : ∀ name, r.errorsFor name
    = ds.filter fun d => d.severity = .error ∧ d.typeName = name
  /-- The errors of all types together are the errors, when no type is left out or taken twice. -/
  parts : ∀ names : List String, names.Nodup → (∀ d ∈ r.errors, d.typeName ∈ names) →
    (names.flatMap r.errorsFor).Perm r.errors

/-- `check` passes exactly the successful reports. -/
theorem check_eq_ok_iff (r : Report) : r.check = .ok () ↔ r.isSuccessful = true := by
  unfold check
  split
  · next h => exact iff_of_true rfl h
  · next h => exact iff_of_false nofun h

/-- Where `check` fails, it hands out the whole bundle of errors. -/
theorem check_eq_error_iff (r : Report) (es : List Diagnostic) :
    r.check = .error es ↔ es = r.errors ∧ ¬ r.isSuccessful = true := by
  unfold check
  split
  · next h => exact iff_of_false nofun fun hes => hes.2 h
  · next h => exact ⟨fun heq => ⟨(Except.error.inj heq).symm, h⟩, fun hes => hes.1 ▸ rfl⟩

/-- The errors and the warnings among some diagnostics make them up, since every diagnostic has one
of the two severities. -/
theorem filter_error_append_filter_warning_perm (ds : List Diagnostic) :
    (ds.filter (·.severity = .error) ++ ds.filter (·.severity = .warning)).Perm ds := by
  have hwarning : ds.filter (·.severity = .warning)
      = ds.filter fun d => !decide (d.severity = .error) := by
    refine List.filter_congr fun d _ => ?_
    cases d.severity with
    | error => rfl
    | warning => rfl
  rw [hwarning]
  exact List.filter_append_perm _ _

/-- Diagnostics are made up of those of each name, when no name is left out or taken twice. -/
theorem flatMap_filter_typeName_perm {names : List String} {ds : List Diagnostic}
    (hnodup : names.Nodup) (hnames : ∀ d ∈ ds, d.typeName ∈ names) :
    (names.flatMap fun name => ds.filter (·.typeName = name)).Perm ds := by
  induction names generalizing ds with
  | nil =>
      have hnil : ds = [] := List.eq_nil_iff_forall_not_mem.2 fun d hd =>
        List.not_mem_nil (hnames d hd)
      rw [hnil]
      rfl
  | cons name names ih =>
      obtain ⟨hnotMem, hnodup⟩ := List.nodup_cons.1 hnodup
      -- The other names find the same among the diagnostics that the first name leaves.
      have hrest (other : String) (hother : other ∈ names) :
          (ds.filter fun d => !decide (d.typeName = name)).filter (·.typeName = other)
            = ds.filter (·.typeName = other) := by
        have hne : other ≠ name := fun heq => hnotMem (heq ▸ hother)
        rw [List.filter_filter]
        refine List.filter_congr fun d _ => ?_
        by_cases h : d.typeName = other
        · simp [h, hne]
        · simp [h]
      have hnames' : ∀ d ∈ ds.filter fun d => !decide (d.typeName = name), d.typeName ∈ names := by
        intro d hd
        obtain ⟨hd, hne⟩ := List.mem_filter.1 hd
        exact (List.mem_cons.1 (hnames d hd)).resolve_left (by simpa using hne)
      have hparts := ih hnodup hnames'
      rw [List.flatMap_congr hrest] at hparts
      rw [List.flatMap_cons]
      exact (hparts.append_left _).trans (List.filter_append_perm _ _)

/-- The errors of a report are made up of what `errorsFor` gives for each name. -/
theorem errorsFor_perm (r : Report) {names : List String} (hnodup : names.Nodup)
    (hnames : ∀ d ∈ r.errors, d.typeName ∈ names) :
    (names.flatMap r.errorsFor).Perm r.errors :=
  flatMap_filter_typeName_perm hnodup hnames

/-- A report made by `ofList` files its diagnostics: every part of `Files` reads off that the two
lists are the two filters. -/
theorem files_ofList (ds : List Diagnostic) : (ofList ds).Files ds := by
  have herrors : (ofList ds).errors = ds.filter (·.severity = .error) := errors_extend empty ds
  have hwarnings : (ofList ds).warnings = ds.filter (·.severity = .warning) :=
    warnings_extend empty ds
  refine ⟨herrors, hwarnings, ?_, isSuccessful_ofList ds, ?_, ?_, ?_, fun _ => errorsFor_perm _⟩
  · rw [herrors, hwarnings]
    exact filter_error_append_filter_warning_perm ds
  · rw [check_eq_ok_iff, isSuccessful_ofList]
  · intro es
    rw [check_eq_error_iff, isSuccessful_ofList]
    simp
  · intro name
    rw [errorsFor, herrors, List.filter_filter]
    refine List.filter_congr fun d _ => ?_
    rw [Bool.decide_and, Bool.and_comm]

end Report

/-! ## Histories -/

/-- How a report is built. What is merged is built in the same way. -/
inductive History where
  | start
  | push (before : History) (d : Diagnostic)
  | extend (before : History) (ds : List Diagnostic)
  | merge (before other : History)

namespace History

/-- The report that is built. -/
def report : History → Report
  | start => .empty
  | push before d => before.report.push d
  | extend before ds => before.report.extend ds
  | merge before other => before.report.merge other.report

/-- The diagnostics that are recorded, in their order. -/
def recorded : History → List Diagnostic
  | start => []
  | push before d => before.recorded ++ [d]
  | extend before ds => before.recorded ++ ds
  | merge before other => before.recorded ++ other.recorded

/-- A report depends on what is recorded, and not on how. -/
theorem report_eq_ofList (h : History) : h.report = .ofList h.recorded := by
  induction h with
  | start => rfl
  | push before d ih =>
      rw [report, recorded, ih]
      exact Report.empty.extend_extend before.recorded [d]
  | extend before ds ih =>
      rw [report, recorded, ih]
      exact Report.empty.extend_extend before.recorded ds
  | merge before other ih ihother =>
      rw [report, recorded, ih, ihother, Report.merge_ofList]
      exact Report.empty.extend_extend before.recorded other.recorded

/-- The report that is built in any way from `push`, `extend` and `merge` files what is recorded,
each diagnostic once, with those of its severity and in the order in which they were recorded. To
record a list is to merge the report of that list, however that report was built. -/
theorem report_files (h : History) : h.report.Files h.recorded
    ∧ ∀ other : History, h.report.extend other.recorded = h.report.merge other.report := by
  constructor
  · rw [h.report_eq_ofList]
    exact Report.files_ofList h.recorded
  · intro other
    rw [other.report_eq_ofList, Report.merge_ofList]

end History

end TypeCatalog
