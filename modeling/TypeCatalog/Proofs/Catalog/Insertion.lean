import Mathlib.Data.List.Forall2
import TypeCatalog.Proofs.Catalog.Order

/-!
# A definition that is left out

A raw definition that breaks a rule, or that has the name of an earlier well-formed one, is left out
of the batch. This file puts such a definition somewhere into a store and compares the two batches.

`readAll_insert` is the comparison of the two readings. They give the same definitions, since a
definition that is left out takes no name. What is found about the others is the same, too, but for
one thing: the definitions behind the new one have a number that is greater by one, and numbers show
in the label of a definition without a name and in the report of a name that is taken.
`Diagnostic.Renumbered` says that nothing else differs.

All that is made of the definitions is then the same. The main statement, `ofStore_insert`, puts it
together, with what is reported about the new definition itself.

`RawDefinition.label` falls back to the number of the definition in the store, and `readAll` threads
the names that are taken. `takenBehind` is what is taken behind the front part of a store; from
there on the readings of the two stores differ in their numbers alone.
-/

set_option autoImplicit false

namespace TypeCatalog

open Shape

/-! ## Diagnostics with other numbers -/

/-- Whether a diagnostic is another one, or is that one with the number of a definition raised by
one. Numbers below `n` are not raised. -/
inductive Diagnostic.Renumbered (n : Nat) : Diagnostic → Diagnostic → Prop
  | same (x : Diagnostic) : Renumbered n x x
  | label (x : Diagnostic) (i : Nat) (h : n ≤ i) :
      Renumbered n { x with typeName := "#" ++ toString i }
        { x with typeName := "#" ++ toString (i + 1) }
  | duplicate (d : Definition) (source : Option String) (i : Nat) (h : n ≤ i) :
      Renumbered n (duplicateName d i source) (duplicateName d (i + 1) source)

open Diagnostic (Renumbered)

/-- Another number changes no severity. -/
theorem Diagnostic.Renumbered.severity {n : Nat} {x y : Diagnostic} (h : Renumbered n x y) :
    x.severity = y.severity := by
  cases h <;> rfl

/-- What is reported of a rule is the same but for the number. -/
theorem Violation.renumbered (v : Violation) (raw : RawDefinition) {n i : Nat} (h : n ≤ i) :
    Renumbered n (v.toDiagnostic (raw.label i)) (v.toDiagnostic (raw.label (i + 1))) := by
  unfold RawDefinition.label
  cases raw.typeName? with
  | some name => exact .same _
  | none =>
      cases raw.source with
      | some source => exact .same _
      | none => exact .label (v.toDiagnostic "") i h

/-- So is all that is reported of rules. -/
theorem Violation.forall₂_renumbered (vs : List Violation) (raw : RawDefinition) {n i : Nat}
    (h : n ≤ i) : List.Forall₂ (Renumbered n) (vs.map (·.toDiagnostic (raw.label i)))
      (vs.map (·.toDiagnostic (raw.label (i + 1)))) := by
  rw [List.forall₂_map_left_iff, List.forall₂_map_right_iff, List.forall₂_same]
  exact fun v _ => v.renumbered raw h

/-- Whether diagnostics are others with some put in, where the numbers of definitions from `n` on
may be raised behind those. -/
def Inserts (n : Nat) (own xs ys : List Diagnostic) : Prop :=
  ∃ before after after', xs = before ++ after ∧ ys = before ++ own ++ after'
    ∧ List.Forall₂ (Renumbered n) after after'

namespace Inserts

variable {n : Nat} {own xs ys : List Diagnostic}

/-- What follows on both sides may be added. -/
theorem append_right (h : Inserts n own xs ys) (zs : List Diagnostic) :
    Inserts n own (xs ++ zs) (ys ++ zs) := by
  obtain ⟨before, after, after', rfl, rfl, hafter⟩ := h
  refine ⟨before, after ++ zs, after' ++ zs, List.append_assoc .., List.append_assoc .., ?_⟩
  exact List.rel_append hafter (List.forall₂_same.2 fun x _ => .same x)

/-- Severities may be picked out. -/
theorem filter_severity (h : Inserts n own xs ys) (s : Severity) :
    Inserts n (own.filter (·.severity = s)) (xs.filter (·.severity = s))
      (ys.filter (·.severity = s)) := by
  obtain ⟨before, after, after', rfl, rfl, hafter⟩ := h
  refine ⟨before.filter (·.severity = s), after.filter (·.severity = s),
    after'.filter (·.severity = s), List.filter_append .., ?_, ?_⟩
  · rw [List.filter_append, List.filter_append]
  · refine List.rel_filter (fun x y hxy => ?_) hafter
    show decide (x.severity = s) = true ↔ decide (y.severity = s) = true
    rw [hxy.severity]

end Inserts

/-! ## One raw definition -/

section Entry

variable {taken : List String} {index : Nat} {raw : RawDefinition}

/-- A definition that breaks a rule is left out. -/
theorem readEntry_of_violations (h : violations raw.value ≠ []) : readEntry taken index raw
    = .error ((violations raw.value).map (·.toDiagnostic (raw.label index))) := by
  unfold readEntry
  cases hviolations : violations raw.value with
  | nil => exact absurd hviolations h
  | cons v vs => rfl

/-- A definition whose name is taken is left out. -/
theorem readEntry_of_mem_taken {d : Definition} (hviolations : violations raw.value = [])
    (hd : Definition.decode raw.value = .ok d) (htaken : d.typeName ∈ taken) :
    readEntry taken index raw = .error [duplicateName d index raw.source] := by
  unfold readEntry
  rw [hviolations, hd]
  simp [htaken]

/-- All that is found about a definition is found under its label. -/
theorem typeName_of_readEntry_eq_error {es : List Diagnostic}
    (h : readEntry taken index raw = .error es) : ∀ x ∈ es, x.typeName = raw.label index := by
  have hmap (vs : List Violation) : ∀ x ∈ vs.map (·.toDiagnostic (raw.label index)),
      x.typeName = raw.label index := by
    intro x hx
    obtain ⟨v, -, rfl⟩ := List.mem_map.1 hx
    rfl
  unfold readEntry at h
  dsimp only at h
  -- A violation is reported under the label, be it of a rule or of the decoder, and a name that is
  -- taken as well, since the label is the name then.
  split at h
  · cases h
    exact hmap _
  · next hviolations =>
      split at h
      · next m _ =>
          cases h
          exact hmap [m.toViolation]
      · next d hd =>
          split at h
          · cases h
            rw [List.forall_mem_singleton]
            show d.typeName = raw.label index
            unfold RawDefinition.label
            rw [typeName?_of_decode hviolations hd]
          · cases h

/-- Under the next number a definition is read in the same way. -/
theorem readEntry_succ (taken : List String) (raw : RawDefinition) {n : Nat} (h : n ≤ index) :
    (∃ d, readEntry taken index raw = .ok d ∧ readEntry taken (index + 1) raw = .ok d)
      ∨ ∃ es es', readEntry taken index raw = .error es
        ∧ readEntry taken (index + 1) raw = .error es' ∧ List.Forall₂ (Renumbered n) es es' := by
  -- No test looks at the number. It shows only in what is told of a failure.
  unfold readEntry
  dsimp only
  split
  · next v vs _ => exact .inr ⟨_, _, rfl, rfl, Violation.forall₂_renumbered (v :: vs) raw h⟩
  · split
    · next m _ => exact .inr ⟨_, _, rfl, rfl, Violation.forall₂_renumbered [m.toViolation] raw h⟩
    · next d _ =>
        split
        · exact .inr ⟨_, _, rfl, rfl, .cons (.duplicate d raw.source index h) .nil⟩
        · exact .inl ⟨_, rfl, rfl⟩

end Entry

/-! ## The whole store -/

section Store

variable {documentation : Bool} {taken : List String} {index : Nat}

/-- Under the next number the same is missing in the documentation. -/
theorem forall₂_renumbered_warnings (raw : RawDefinition) {n : Nat} (h : n ≤ index) :
    List.Forall₂ (Renumbered n)
      (if documentation then documentationWarnings (raw.label index) raw.value else [])
      (if documentation then documentationWarnings (raw.label (index + 1)) raw.value else []) := by
  cases documentation with
  | true => exact Violation.forall₂_renumbered _ raw h
  | false => exact .nil

/-- Raw definitions are read as before when each has the next number. -/
theorem readAll_succ (taken : List String) (entries : List RawDefinition) {n : Nat}
    (h : n ≤ index) :
    (readAll documentation taken (index + 1) entries).1
        = (readAll documentation taken index entries).1
      ∧ List.Forall₂ (Renumbered n) (readAll documentation taken index entries).2
        (readAll documentation taken (index + 1) entries).2 := by
  induction entries generalizing taken index with
  | nil =>
      rw [readAll_nil, readAll_nil]
      exact ⟨rfl, .nil⟩
  | cons raw rest ih =>
      have hwarnings := @forall₂_renumbered_warnings documentation index raw n h
      -- The same names are taken either way, so the rest is read alike.
      rcases readEntry_succ taken raw h with ⟨d, hd, hd'⟩ | ⟨es, es', hes, hes', hrenumbered⟩
      · obtain ⟨hdefinitions, hfound⟩ :=
          ih (d.typeName :: taken) (Nat.le_succ_of_le h)
        rw [readAll_cons_ok hd, readAll_cons_ok hd', hdefinitions]
        exact ⟨rfl, List.rel_append hwarnings hfound⟩
      · obtain ⟨hdefinitions, hfound⟩ := ih taken (Nat.le_succ_of_le h)
        rw [readAll_cons_error hes, readAll_cons_error hes', hdefinitions]
        exact ⟨rfl, List.rel_append (List.rel_append hwarnings hrenumbered) hfound⟩

/-- The names that are taken behind some raw definitions. -/
def takenBehind (documentation : Bool) (taken : List String) (index : Nat)
    (entries : List RawDefinition) : List String :=
  ((readAll documentation taken index entries).1.map (·.typeName)).reverse ++ taken

/-- What is read of a store in two parts. -/
theorem readAll_append (front back : List RawDefinition) :
    readAll documentation taken index (front ++ back)
      = ((readAll documentation taken index front).1
          ++ (readAll documentation (takenBehind documentation taken index front)
            (index + front.length) back).1,
        (readAll documentation taken index front).2
          ++ (readAll documentation (takenBehind documentation taken index front)
            (index + front.length) back).2) := by
  induction front generalizing taken index with
  | nil =>
      unfold takenBehind
      rw [readAll_nil]
      rfl
  | cons raw rest ih =>
      have hlength : index + (raw :: rest).length = index + 1 + rest.length := by
        rw [List.length_cons]
        omega
      -- The second part starts with the names that the first one took: what the head takes is
      -- taken already when the induction hypothesis begins.
      cases hraw : readEntry taken index raw with
      | error es =>
          have htaken : takenBehind documentation taken index (raw :: rest)
              = takenBehind documentation taken (index + 1) rest := by
            unfold takenBehind
            rw [readAll_cons_error hraw]
          rw [List.cons_append, readAll_cons_error hraw, readAll_cons_error hraw, htaken, hlength,
            ih]
          simp only [List.append_assoc]
      | ok d =>
          have htaken : takenBehind documentation taken index (raw :: rest)
              = takenBehind documentation (d.typeName :: taken) (index + 1) rest := by
            unfold takenBehind
            rw [readAll_cons_ok hraw, List.map_cons, List.reverse_cons, List.append_assoc]
            rfl
          rw [List.cons_append, readAll_cons_ok hraw, readAll_cons_ok hraw, htaken, hlength, ih]
          simp only [List.append_assoc, List.cons_append]

/-- A raw definition that is left out takes no name. What is found about it is put in, with notes on
its documentation before, and the numbers behind it are raised. -/
theorem readAll_insert {front : List RawDefinition} {m : RawDefinition} {es : List Diagnostic}
    (h : readEntry (takenBehind documentation [] 0 front) front.length m = .error es)
    (back : List RawDefinition) :
    (readAll documentation [] 0 (front ++ m :: back)).1
        = (readAll documentation [] 0 (front ++ back)).1
      ∧ ∃ notes, (∀ x ∈ notes, ¬ x.IsError ∧ x.typeName = m.label front.length)
        ∧ Inserts front.length (notes ++ es) (readAll documentation [] 0 (front ++ back)).2
          (readAll documentation [] 0 (front ++ m :: back)).2 := by
  obtain ⟨hdefinitions, hfound⟩ := @readAll_succ documentation front.length
    (takenBehind documentation [] 0 front) back front.length (Nat.le_refl _)
  have hnotes : ∀ x ∈ (if documentation then documentationWarnings (m.label front.length) m.value
      else []), ¬ x.IsError ∧ x.typeName = m.label front.length := by
    split
    · intro x hx
      refine ⟨not_isError_of_mem_documentationWarnings hx, ?_⟩
      obtain ⟨w, -, rfl⟩ := List.mem_map.1 hx
      rfl
    · exact nofun
  rw [readAll_append, readAll_append, Nat.zero_add, readAll_cons_error h]
  dsimp only
  rw [hdefinitions]
  refine ⟨rfl, _, hnotes, _, _, _, rfl, ?_, hfound⟩
  simp only [List.append_assoc]

/-- A well-formed definition takes its name, if the name is not taken before. -/
theorem mem_takenBehind {entries : List RawDefinition} {raw : RawDefinition} {d : Definition}
    (hraw : raw ∈ entries) (hviolations : violations raw.value = [])
    (hd : Definition.decode raw.value = .ok d) :
    d.typeName ∈ takenBehind documentation taken index entries := by
  unfold takenBehind
  rw [List.mem_append, List.mem_reverse]
  induction entries generalizing taken index with
  | nil => cases hraw
  | cons first rest ih =>
      cases hfirst : readEntry taken index first with
      | error es =>
          rw [readAll_cons_error hfirst]
          rcases List.mem_cons.1 hraw with rfl | hraw
          · -- It breaks no rule and is left out all the same: its name was taken from the start.
            right
            by_contra hnot
            rw [readEntry_eq_ok hviolations hd hnot] at hfirst
            cases hfirst
          · exact ih hraw
      | ok e =>
          rw [readAll_cons_ok hfirst, List.map_cons]
          rcases List.mem_cons.1 hraw with rfl | hraw
          · obtain ⟨-, -, e', he', rfl⟩ := of_readEntry_eq_ok hfirst
            cases hd.symm.trans he'
            exact .inl (.head _)
          · rcases @ih (e.typeName :: taken) (index + 1) hraw with hmem | hmem
            · exact .inl (.tail _ hmem)
            · rcases List.mem_cons.1 hmem with heq | hmem
              · exact .inl (heq ▸ .head _)
              · exact .inr hmem

/-- A name that no well-formed definition has is not taken. -/
theorem notMem_takenBehind {entries : List RawDefinition} {name : String}
    (h : ∀ raw ∈ entries, violations raw.value = [] → raw.typeName? ≠ some name) :
    name ∉ takenBehind documentation [] index entries := by
  unfold takenBehind
  rw [List.append_nil, List.mem_reverse]
  intro hmem
  obtain ⟨d, hd, rfl⟩ := List.mem_map.1 hmem
  obtain ⟨raw, hraw, hviolations, e, he, rfl⟩ := exists_of_mem_readAll hd
  refine h raw hraw hviolations ?_
  rw [Definition.withDefaults_typeName]
  exact typeName?_of_decode hviolations he

end Store

namespace Catalog

/-! ## The same definitions -/

/-- Whether two batches give the same answers about every name. -/
structure Agrees (c c' : Catalog) : Prop where
  definitions : c'.definitions = c.definitions
  document? : ∀ system name, c'.document? system name = c.document? system name
  fingerprint? : ∀ system name, c'.fingerprint? system name = c.fingerprint? system name
  hasValidator : ∀ system name, c'.hasValidator system name = c.hasValidator system name
  validate? : ∀ system name v, c'.validate? system name v = c.validate? system name v
  validateList? : ∀ system name v, c'.validateList? system name v = c.validateList? system name v
  typeMap : c'.typeMap = c.typeMap

section

variable {settings : Settings} {formats : List Format} {store store' : Store}

variable (h : (ofStore settings formats store').definitions
  = (ofStore settings formats store).definitions)

include h

/-- The same definitions give the same emitted ones. -/
theorem emitted_congr :
    (ofStore settings formats store').emitted = (ofStore settings formats store).emitted := by
  rw [emitted_ofStore, emitted_ofStore, h]

/-- So they give the same documents. -/
theorem documents_congr :
    (ofStore settings formats store').documents = (ofStore settings formats store).documents := by
  unfold documents
  rw [emitted_congr h]

/-- And the same engine. -/
theorem engineOf_congr : engineOf settings formats store' = engineOf settings formats store := by
  unfold engineOf
  rw [documents_congr h]

/-- And the same validators. -/
theorem validators_congr :
    (ofStore settings formats store').validators = (ofStore settings formats store).validators := by
  rw [validators_ofStore, validators_ofStore, engineOf_congr h, documents_congr h]

/-- And the same type map. -/
theorem typeMap_congr :
    (ofStore settings formats store').typeMap = (ofStore settings formats store).typeMap := by
  have hdomain : (ofStore settings formats store').domain
      = (ofStore settings formats store).domain := rfl
  unfold typeMap
  rw [hdomain, emitted_congr h, h]

/-- And the same problems behind the reading. -/
theorem problems_congr : problems settings formats store' = problems settings formats store := by
  unfold problems
  rw [engineOf_congr h, documents_congr h, validators_congr h, h]

/-- All that is asked of a batch by a name is made of its definitions. -/
theorem agrees_of_definitions :
    (ofStore settings formats store).Agrees (ofStore settings formats store') := by
  have hdocument (system name : String) : (ofStore settings formats store').document? system name
      = (ofStore settings formats store).document? system name := by
    unfold document?
    rw [documents_congr h]
  have hvalidator (system name : String) :
      (ofStore settings formats store').validator? system name
        = (ofStore settings formats store).validator? system name := by
    unfold validator?
    rw [validators_congr h]
  refine ⟨h, hdocument, ?_, ?_, ?_, ?_, typeMap_congr h⟩
  · intro system name
    unfold fingerprint?
    rw [hdocument]
  · intro system name
    unfold hasValidator
    rw [hvalidator]
  · intro system name v
    unfold validate?
    rw [hvalidator]
  · intro system name v
    unfold validateList?
    rw [hvalidator]

end

/-! ## A store with one more definition -/

/-- The first well-formed definition of a name keeps it. -/
theorem definition?_of_first {settings : Settings} {formats : List Format}
    {before after : List RawDefinition} {raw : RawDefinition} {d : Definition}
    (hviolations : violations raw.value = []) (hd : Definition.decode raw.value = .ok d)
    (hfirst : ∀ other ∈ before, violations other.value = [] → other.typeName? ≠ raw.typeName?) :
    (ofStore settings formats ⟨before ++ raw :: after⟩).definition? d.header.system d.header.name
      = some d.withDefaults := by
  have hname := typeName?_of_decode hviolations hd
  have hnot : d.typeName ∉ takenBehind settings.documentation [] 0 before :=
    notMem_takenBehind fun other hother hwell => hname ▸ hfirst other hother hwell
  have hmem : d.withDefaults
      ∈ (ofStore settings formats ⟨before ++ raw :: after⟩).definitions := by
    rw [definitions_ofStore, readAll_append, readAll_cons_ok (readEntry_eq_ok hviolations hd hnot)]
    exact List.mem_append.2 (.inr (.head _))
  have hfind := Table.find?_of_mem (·.typeName) typeNames_nodup hmem
  rwa [Definition.withDefaults_typeName] at hfind

/-- A well-formed definition that has the name of an earlier one is left out for its name. -/
theorem readEntry_of_repeated {documentation : Bool} {front : List RawDefinition}
    {m earlier : RawDefinition} (hdm : m.value.Distinct) (hviolations : violations m.value = [])
    (hearlier : earlier ∈ front) (hdearlier : earlier.value.Distinct)
    (hwell : violations earlier.value = []) (hname : earlier.typeName? = m.typeName?) :
    ∃ d, Definition.decode m.value = .ok d
      ∧ readEntry (takenBehind documentation [] 0 front) front.length m
        = .error [duplicateName d front.length m.source] := by
  obtain ⟨d, hd⟩ := exists_decode_of_violations_eq_nil hdm hviolations
  obtain ⟨e, he⟩ := exists_decode_of_violations_eq_nil hdearlier hwell
  have hsame : e.typeName = d.typeName := by
    rw [typeName?_of_decode hwell he, typeName?_of_decode hviolations hd] at hname
    exact Option.some.inj hname
  exact ⟨d, hd, readEntry_of_mem_taken hviolations hd (hsame ▸ mem_takenBehind hearlier hwell he)⟩

/-- A raw definition that breaks a rule, or has the name of an earlier well-formed one, affects
nothing but itself, wherever it is put into a store. The batch gives the same answers about every
name, and has the same type map. Its errors and warnings are those it had, but for the numbers of
the definitions behind the new one, and some that are put in under the label of the new one, at
least one error among them. For a name that is declared again this is one error, and the first
well-formed definition of the name keeps it. -/
theorem ofStore_insert (settings : Settings) (formats : List Format)
    (front back : List RawDefinition) (m : RawDefinition)
    (hdistinct : ∀ raw ∈ front ++ m :: back, raw.value.Distinct)
    (hm : violations m.value ≠ [] ∨ violations m.value = []
      ∧ ∃ earlier ∈ front, violations earlier.value = [] ∧ earlier.typeName? = m.typeName?) :
    let c := ofStore settings formats ⟨front ++ back⟩
    let c' := ofStore settings formats ⟨front ++ m :: back⟩
    c.Agrees c'
    ∧ ∃ warnings errors,
      Inserts front.length warnings c.report.warnings c'.report.warnings
      ∧ Inserts front.length errors c.report.errors c'.report.errors
      ∧ (∀ x ∈ warnings ++ errors, x.typeName = m.label front.length)
      ∧ errors ≠ []
      ∧ (violations m.value = [] →
        (∃ d, Definition.decode m.value = .ok d
          ∧ errors = [duplicateName d front.length m.source])
        ∧ ∀ before raw after, front = before ++ raw :: after →
          violations raw.value = [] → raw.typeName? = m.typeName? →
          (∀ other ∈ before, violations other.value = [] → other.typeName? ≠ m.typeName?) →
          ∃ d, Definition.decode raw.value = .ok d
            ∧ c'.definition? d.header.system d.header.name = some d.withDefaults) := by
  intro c c'
  have hdm : m.value.Distinct := hdistinct m (List.mem_append.2 (.inr (.head _)))
  have hdfront : ∀ raw ∈ front, raw.value.Distinct :=
    fun raw hraw => hdistinct raw (List.mem_append.2 (.inl hraw))
  have hduplicate (hviolations : violations m.value = []) :
      ∃ d, Definition.decode m.value = .ok d
        ∧ readEntry (takenBehind settings.documentation [] 0 front) front.length m
          -- The new definition is left out in any case, for a rule or for its name.
          = .error [duplicateName d front.length m.source] := by
    obtain ⟨-, earlier, hearlier, hwell, hname⟩ := hm.resolve_left (not_not_intro hviolations)
    exact readEntry_of_repeated hdm hviolations hearlier (hdfront earlier hearlier) hwell hname
  obtain ⟨es, hes⟩ :
      ∃ es, readEntry (takenBehind settings.documentation [] 0 front) front.length m
        = .error es := by
    by_cases hviolations : violations m.value = []
    · obtain ⟨d, -, hread⟩ := hduplicate hviolations
      exact ⟨_, hread⟩
    · exact ⟨_, readEntry_of_violations hviolations⟩
  obtain ⟨hdefinitions, notes, hnotes, hread⟩ := readAll_insert hes back
  have hsame : c'.definitions = c.definitions := hdefinitions
  have hfound : Inserts front.length (notes ++ es) (found settings formats ⟨front ++ back⟩)
      (found settings formats ⟨front ++ m :: back⟩) := by
    unfold found
    rw [problems_congr hsame]
    exact hread.append_right _
  have hlabel : ∀ x ∈ notes ++ es, x.typeName = m.label front.length :=
    List.forall_mem_append.2 ⟨fun x hx => (hnotes x hx).2, typeName_of_readEntry_eq_error hes⟩
  have herrors : (notes ++ es).filter (·.severity = .error) = es.filter (·.severity = .error) := by
    rw [List.filter_append, List.filter_eq_nil_iff.2, List.nil_append]
    intro x hx herror
    rw [decide_eq_true_eq] at herror
    exact (hnotes x hx).1 herror
  refine ⟨agrees_of_definitions hsame, (notes ++ es).filter (·.severity = .warning),
    (notes ++ es).filter (·.severity = .error), ?_, ?_, ?_, ?_, ?_⟩
  · rw [warnings_report, warnings_report, typeMap_congr hsame]
    exact (hfound.filter_severity .warning).append_right _
  · rw [errors_report, errors_report, typeMap_congr hsame]
    exact (hfound.filter_severity .error).append_right _
  · refine List.forall_mem_append.2 ⟨?_, ?_⟩
    · exact fun x hx => hlabel x (List.mem_filter.1 hx).1
    · exact fun x hx => hlabel x (List.mem_filter.1 hx).1
  -- One of its errors is an error and no warning.
  · obtain ⟨x, hx, herror⟩ := exists_isError_of_readEntry hdm hes
    rw [herrors]
    have hseverity : x.severity = .error := herror
    exact List.ne_nil_of_mem (List.mem_filter.2 ⟨hx, decide_eq_true hseverity⟩)
  · intro hviolations
    obtain ⟨d, hd, hduplicated⟩ := hduplicate hviolations
    refine ⟨⟨d, hd, ?_⟩, ?_⟩
    · rw [herrors, Except.error.inj (hes.symm.trans hduplicated)]
      rfl
    · rintro before raw after rfl hwell hname hfirst
      obtain ⟨e, he⟩ := exists_decode_of_violations_eq_nil (hdfront raw (by simp)) hwell
      refine ⟨e, he, ?_⟩
      show (ofStore settings formats ⟨before ++ raw :: after ++ m :: back⟩).definition? _ _ = _
      rw [List.append_assoc, List.cons_append]
      exact definition?_of_first hwell he (hname ▸ hfirst)

/-- A flag, the same flag once more, and a definition that has neither a name nor a source. -/
def repeatedStore : Store := ⟨[
  ⟨none, .object [("kind", .string "bool"), ("system", .string "test"), ("name", .string "flag"),
    ("validTestCases", .array [])]⟩,
  ⟨none, .object [("kind", .string "bool"), ("system", .string "test"), ("name", .string "flag"),
    ("summary", .string "A flag."), ("validTestCases", .array [])]⟩,
  ⟨none, .object [("kind", .string "bool")]⟩]⟩

/-- The second flag of the store is one error, and the first one keeps the name. -/
theorem ofStore_repeatedStore :
    (∀ raw ∈ repeatedStore.entries, raw.value.Distinct)
    ∧ ∃ first second last, repeatedStore.entries = [first, second, last]
      ∧ violations second.value = [] ∧ violations first.value = []
      ∧ first.typeName? = second.typeName?
      ∧ (ofStore .standard [] ⟨[first, last]⟩).Agrees (ofStore .standard [] repeatedStore)
      ∧ ∃ d, Inserts 1 [duplicateName d 1 none] (ofStore .standard [] ⟨[first, last]⟩).report.errors
        (ofStore .standard [] repeatedStore).report.errors := by
  have hdistinct : ∀ raw ∈ repeatedStore.entries, raw.value.Distinct := by
    simp [repeatedStore, Json.Distinct, Json.DistinctMembers, Json.DistinctItems]
  have hviolations : violations (repeatedStore.entries[1]!).value = [] := by decide +kernel
  have hfirst : violations (repeatedStore.entries[0]!).value = [] := by decide +kernel
  have hname : (repeatedStore.entries[0]!).typeName? = (repeatedStore.entries[1]!).typeName? := by
    decide +kernel
  obtain ⟨hagrees, warnings, errors, -, herrors, -, -, hduplicate⟩ :=
    ofStore_insert .standard [] [repeatedStore.entries[0]!] [repeatedStore.entries[2]!]
      repeatedStore.entries[1]! hdistinct
      (.inr ⟨hviolations, _, List.mem_singleton_self _, hfirst, hname⟩)
  obtain ⟨⟨d, -, rfl⟩, -⟩ := hduplicate hviolations
  exact ⟨hdistinct, _, _, _, rfl, hviolations, hfirst, hname, hagrees, d, herrors⟩

end Catalog

end TypeCatalog
