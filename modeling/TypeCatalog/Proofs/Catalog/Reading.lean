import Mathlib.Data.List.Nodup
import TypeCatalog.Catalog
import TypeCatalog.Proofs.Definition.WellFormed
import TypeCatalog.Proofs.Report

/-!
# Reading a store

`readAll` goes through the raw definitions of a store, remembers the names that are taken, and
leaves out what breaks a rule or has a name that is taken. This file says which definitions are
left and when nothing is reported but warnings.

The definitions are well formed and have different names, whatever the store is. There is no error
exactly when every raw definition breaks no rule and no two have the same name, and then the
definitions are those of the store, in its order and with their defaults.

`readEntry` decides about one raw definition: `Shape.violations` first, then `Definition.decode`,
then the names that are taken. `readAll` is the loop, and its induction threads these names and the
number of the entry.
-/

set_option autoImplicit false

namespace TypeCatalog

open Result Shape

/-! ## Errors among diagnostics -/

namespace Diagnostic

/-- A violation of a rule on anything but documentation is an error. -/
theorem isError_of_not_isDocumentation {v : Violation} (h : v.rule.isDocumentation = false)
    (label : String) : (v.toDiagnostic label).IsError := by
  show v.rule.kind.severity = .error
  unfold Rule.isDocumentation at h
  cases hkind : v.rule.kind with
  | documentation =>
      rw [hkind] at h
      cases h
  | _ => rfl

/-- A violation of one on documentation is none. -/
theorem not_isError_of_isDocumentation {v : Violation} (h : v.rule.isDocumentation = true)
    (label : String) : ¬ (v.toDiagnostic label).IsError := by
  show ¬ v.rule.kind.severity = .error
  rw [of_decide_eq_true h]
  nofun

end Diagnostic

open Diagnostic

/-! ## One raw definition -/

/-- So the warnings about documentation are no errors. -/
theorem not_isError_of_mem_documentationWarnings {label : String} {v : Json} {d : Diagnostic}
    (h : d ∈ documentationWarnings label v) : ¬ d.IsError := by
  obtain ⟨w, hw, rfl⟩ := List.mem_map.1 h
  exact not_isError_of_isDocumentation (isDocumentation_of_mem_warnings hw) label

/-- A definition that is read breaks no rule, has a name that was not taken, and has its defaults.
-/
theorem of_readEntry_eq_ok {taken : List String} {index : Nat} {raw : RawDefinition}
    {d : Definition} (h : readEntry taken index raw = .ok d) :
    violations raw.value = [] ∧ d.typeName ∉ taken
      ∧ ∃ e, Definition.decode raw.value = .ok e ∧ d = e.withDefaults := by
  unfold readEntry at h
  dsimp only at h
  split at h
  · cases h
  · next hviolations =>
      split at h
      · cases h
      · next e he =>
          split at h
          · cases h
          · next hnot =>
              cases h
              exact ⟨hviolations, by simpa using hnot, e, he, rfl⟩

/-- A value whose names are distinct is read if it breaks no rule and its name is not taken. -/
theorem readEntry_eq_ok {taken : List String} {index : Nat} {raw : RawDefinition} {d : Definition}
    (hviolations : violations raw.value = []) (hd : Definition.decode raw.value = .ok d)
    (hnew : d.typeName ∉ taken) : readEntry taken index raw = .ok d.withDefaults := by
  unfold readEntry
  rw [hviolations, hd]
  simp [hnew]

/-- A definition that is left out has an error. -/
theorem exists_isError_of_readEntry {taken : List String} {index : Nat} {raw : RawDefinition}
    {es : List Diagnostic} (hraw : raw.value.Distinct) (h : readEntry taken index raw = .error es) :
    ∃ e ∈ es, e.IsError := by
  unfold readEntry at h
  dsimp only at h
  split at h
  · next v vs hvs =>
      cases h
      have hv : v.rule.isDocumentation = false :=
        not_isDocumentation_of_mem_violations (j := raw.value) (hvs ▸ .head _)
      exact ⟨_, .head _, isError_of_not_isDocumentation hv _⟩
  · next hvs =>
      obtain ⟨d, hd⟩ := exists_decode_of_violations_eq_nil hraw hvs
      rw [hd] at h
      dsimp only at h
      split at h
      · cases h
        exact ⟨_, .head _, rfl⟩
      · cases h

/-! ## The whole store -/

variable {documentation : Bool}

/-- Nothing is read of an empty store. -/
theorem readAll_nil (taken : List String) (index : Nat) :
    readAll documentation taken index [] = ([], []) := by
  rw [readAll]

/-- What is read of a store from an index on, where the first raw definition is left out. -/
theorem readAll_cons_error {taken : List String} {index : Nat} {raw : RawDefinition}
    {rest : List RawDefinition} {es : List Diagnostic} (h : readEntry taken index raw = .error es) :
    readAll documentation taken index (raw :: rest)
      = ((readAll documentation taken (index + 1) rest).1,
        (if documentation then documentationWarnings (raw.label index) raw.value else []) ++ es
          ++ (readAll documentation taken (index + 1) rest).2) := by
  rw [readAll, h]

/-- What is read of a store from an index on, where the first raw definition is read. -/
theorem readAll_cons_ok {taken : List String} {index : Nat} {raw : RawDefinition}
    {rest : List RawDefinition} {d : Definition} (h : readEntry taken index raw = .ok d) :
    readAll documentation taken index (raw :: rest)
      = (d :: (readAll documentation (d.typeName :: taken) (index + 1) rest).1,
        (if documentation then documentationWarnings (raw.label index) raw.value else [])
          ++ (readAll documentation (d.typeName :: taken) (index + 1) rest).2) := by
  rw [readAll, h]

/-- Every definition that is read stands for a raw one that breaks no rule. -/
theorem exists_of_mem_readAll {taken : List String} {index : Nat} {entries : List RawDefinition}
    {d : Definition} (h : d ∈ (readAll documentation taken index entries).1) :
    ∃ raw ∈ entries, violations raw.value = []
      ∧ ∃ e, Definition.decode raw.value = .ok e ∧ d = e.withDefaults := by
  induction entries generalizing taken index with
  | nil =>
      rw [readAll_nil] at h
      exact absurd h List.not_mem_nil
  | cons raw rest ih =>
      cases hraw : readEntry taken index raw with
      | error es =>
          rw [readAll_cons_error hraw] at h
          obtain ⟨r, hr, hfound⟩ := ih h
          exact ⟨r, .tail _ hr, hfound⟩
      | ok e =>
          rw [readAll_cons_ok hraw] at h
          rcases List.mem_cons.1 h with rfl | h
          · obtain ⟨hviolations, -, hdecode⟩ := of_readEntry_eq_ok hraw
            exact ⟨raw, .head _, hviolations, hdecode⟩
          · obtain ⟨r, hr, hfound⟩ := ih h
            exact ⟨r, .tail _ hr, hfound⟩

/-- What is read is well formed. -/
theorem wellFormed_of_mem_readAll {taken : List String} {index : Nat}
    {entries : List RawDefinition} {d : Definition}
    (h : d ∈ (readAll documentation taken index entries).1) : d.WellFormed := by
  obtain ⟨raw, -, hviolations, e, he, rfl⟩ := exists_of_mem_readAll h
  exact (wellFormed_of_decode hviolations he).withDefaults

/-- The names of the definitions that are read differ from each other and from those taken before.
-/
theorem typeNames_readAll {taken : List String} {index : Nat} {entries : List RawDefinition} :
    ((readAll documentation taken index entries).1.map (·.typeName)).Nodup
      ∧ ∀ d ∈ (readAll documentation taken index entries).1, d.typeName ∉ taken := by
  induction entries generalizing taken index with
  | nil =>
      rw [readAll_nil]
      exact ⟨.nil, fun _ h => absurd h List.not_mem_nil⟩
  | cons raw rest ih =>
      cases hraw : readEntry taken index raw with
      | error es =>
          rw [readAll_cons_error hraw]
          exact ih
      | ok e =>
          rw [readAll_cons_ok hraw]
          obtain ⟨hnodup, hnew⟩ := @ih (e.typeName :: taken) (index + 1)
          refine ⟨?_, List.forall_mem_cons.2 ⟨(of_readEntry_eq_ok hraw).2.1, ?_⟩⟩
          · rw [List.map_cons, List.nodup_cons]
            refine ⟨fun hmem => ?_, hnodup⟩
            obtain ⟨d, hd, heq⟩ := List.mem_map.1 hmem
            exact hnew d hd (heq ▸ .head _)
          · exact fun d hd hmem => hnew d hd (.tail _ hmem)

/-- A store is read without errors exactly when no raw definition breaks a rule, no two of them have
the same name, and none has a name that was taken before. -/
theorem readAll_noErrors_iff {taken : List String} {index : Nat} {entries : List RawDefinition}
    (hentries : ∀ raw ∈ entries, raw.value.Distinct) :
    (∀ x ∈ (readAll documentation taken index entries).2, ¬ x.IsError)
      ↔ (∀ raw ∈ entries, violations raw.value = [])
        ∧ (entries.map RawDefinition.typeName?).Nodup
        ∧ ∀ name ∈ taken, some name ∉ entries.map RawDefinition.typeName? := by
  have hwarnings (raw : RawDefinition) (label : String) :
      ∀ x ∈ (if documentation then documentationWarnings label raw.value else []),
        ¬ x.IsError := by
    intro x hx
    split at hx
    · exact not_isError_of_mem_documentationWarnings hx
    · cases hx
  induction entries generalizing taken index with
  | nil =>
      rw [readAll_nil]
      exact ⟨fun _ => ⟨nofun, .nil, nofun⟩, fun _ => nofun⟩
  | cons raw rest ih =>
      obtain ⟨hdistinct, hrest⟩ := List.forall_mem_cons.1 hentries
      cases hraw : readEntry taken index raw with
      -- An entry that is left out has an error, so one of the conditions has to fail for it.
      | error es =>
          obtain ⟨e, he, herror⟩ := exists_isError_of_readEntry hdistinct hraw
          rw [readAll_cons_error hraw]
          refine iff_of_false (fun h => ?_) (fun h => ?_)
          · exact h e (List.mem_append.2 (.inl (List.mem_append.2 (.inr he)))) herror
          · obtain ⟨hviolations, -, hnew⟩ := h
            have hv := hviolations raw (.head _)
            obtain ⟨d, hd⟩ := exists_decode_of_violations_eq_nil hdistinct hv
            have hname := typeName?_of_decode hv hd
            have hnot : d.typeName ∉ taken := fun hmem => by
              refine hnew _ hmem ?_
              rw [List.map_cons, hname]
              exact .head _
            rw [readEntry_eq_ok hv hd hnot] at hraw
            cases hraw
      | ok d =>
          obtain ⟨hv, hnew, e, he, rfl⟩ := of_readEntry_eq_ok hraw
          have hname := typeName?_of_decode hv he
          rw [readAll_cons_ok hraw]
          refine List.forall_mem_append.trans ?_
          refine (and_iff_right (hwarnings raw _)).trans ?_
          refine (ih hrest).trans ?_
          simp only [List.map_cons, List.nodup_cons, hname, List.mem_cons, forall_eq_or_imp,
            not_or, Option.some.injEq, Definition.withDefaults_typeName] at hnew ⊢
          constructor
          · rintro ⟨hall, hnodup, hfirst, htaken⟩
            exact ⟨⟨hv, hall⟩, ⟨hfirst, hnodup⟩,
              fun name hmem => ⟨fun heq => hnew (heq ▸ hmem), htaken name hmem⟩⟩
          · rintro ⟨⟨-, hall⟩, ⟨hfirst, hnodup⟩, htaken⟩
            exact ⟨hall, hnodup, hfirst, fun name hmem => (htaken name hmem).2⟩

/-- Where a store is read without errors, the definitions are those of the store, with their
defaults. -/
theorem readAll_forall₂ {taken : List String} {index : Nat} {entries : List RawDefinition}
    (hentries : ∀ raw ∈ entries, raw.value.Distinct)
    (h : ∀ x ∈ (readAll documentation taken index entries).2, ¬ x.IsError) :
    List.Forall₂ (fun raw d => (Definition.decode raw.value).map Definition.withDefaults = .ok d)
      entries (readAll documentation taken index entries).1 := by
  induction entries generalizing taken index with
  | nil =>
      rw [readAll_nil]
      exact .nil
  | cons raw rest ih =>
      obtain ⟨hdistinct, hrest⟩ := List.forall_mem_cons.1 hentries
      cases hraw : readEntry taken index raw with
      | error es =>
          obtain ⟨e, he, herror⟩ := exists_isError_of_readEntry hdistinct hraw
          rw [readAll_cons_error hraw] at h
          exact absurd herror (h e (List.mem_append.2 (.inl (List.mem_append.2 (.inr he)))))
      | ok d =>
          rw [readAll_cons_ok hraw] at h ⊢
          obtain ⟨-, -, e, he, rfl⟩ := of_readEntry_eq_ok hraw
          exact .cons (map_eq_ok.2 ⟨e, he, rfl⟩)
            (ih hrest fun x hx => h x (List.mem_append.2 (.inr hx)))

end TypeCatalog
