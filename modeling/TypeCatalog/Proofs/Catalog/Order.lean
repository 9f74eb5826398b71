import Mathlib.Data.List.Perm.Basic
import Mathlib.Data.String.Basic
import Mathlib.Tactic.Order
import TypeCatalog.Proofs.Catalog.Success

/-!
# The order of a store

The definitions of a batch may refer to each other in any order, so the order of a store should not
matter. Of two definitions of one name the earlier counts, so it does matter where two well-formed
definitions have the same name. This file says that it matters nowhere else.

Where no two well-formed definitions have the same name, what becomes of each does not depend on
those before it (`readAll_eq`). So another order of the store gives the definitions in another
order; the known types and the documents are kept in the order of their names, and stay the same.
With them stay the engine and all validators. The main statement is `ofStore_perm`. It compares
what is reported without the numbers that definitions without a name are called by:
`Diagnostic.withoutNumber` drops them. Nothing has to be dropped where every definition has a name
or a source.

`found` is the list that the stages fill, and `Report.ofList` sorts it into errors and warnings,
with the circles of `TypeMap.cycles` behind. The type map is made in the order of the definitions,
so circles may be told from another name, which is why they are left out of the comparison.
-/

set_option autoImplicit false

namespace TypeCatalog

open Shape

/-! ## Known types -/

namespace KnownTypes

/-- Two names are entered in either order. -/
theorem insertSorted_comm {a b : String} (hne : a ≠ b) (k l : TypeKind)
    (kinds : List (String × TypeKind)) :
    insertSorted a k (insertSorted b l kinds) = insertSorted b l (insertSorted a k kinds) := by
  induction kinds with
  | nil =>
      rcases lt_or_gt_of_ne hne with hab | hba
      · simp [insertSorted, hab, hne.symm, not_lt_of_gt hab]
      · simp [insertSorted, hba, hne, not_lt_of_gt hba]
  | cons entry kinds ih =>
      obtain ⟨n, m⟩ := entry
      simp only [insertSorted]
      -- Each of the names stands before the entry, takes its place or goes behind it.
      split_ifs <;> simp only [insertSorted] <;> split_ifs
      all_goals first
        | rfl
        | (exfalso; order)
        | simp_all

/-- The known types do not depend on the order of the definitions. -/
theorem ofDefinitions_perm {ds es : List Definition} (hperm : ds.Perm es)
    (hnodup : (ds.map (·.typeName)).Nodup) : ofDefinitions ds = ofDefinitions es := by
  refine hperm.foldl_eq' (fun d hd e he known => ?_) empty
  show (⟨_⟩ : KnownTypes) = ⟨_⟩
  by_cases hname : d.typeName = e.typeName
  · rw [List.inj_on_of_nodup_map hnodup hd he hname]
  · congr 1
    exact insertSorted_comm (Ne.symm hname) e.kind d.kind known.kinds

end KnownTypes

/-! ## Documents -/

/-- What was written stands in the order of the names. -/
theorem pairwise_emittedOf (attempts : List (Definition × Except (List Violation) Emitted)) :
    (emittedOf attempts).Pairwise fun a b => a.1 ≤ b.1 := by
  unfold emittedOf
  refine (List.pairwise_mergeSort (fun a b c hab hbc => ?_) (fun a b => ?_) _).imp of_decide_eq_true
  · simp only [decide_eq_true_eq] at hab hbc ⊢
    exact hab.trans hbc
  · simpa using le_total a.1 b.1

/-- Documents in the order of names that differ do not depend on the order in which they were
written. -/
theorem emittedOf_eq_of_perm
    {attempts attempts' : List (Definition × Except (List Violation) Emitted)}
    (hperm : attempts.Perm attempts') (hnodup : ((emittedOf attempts).map Prod.fst).Nodup) :
    emittedOf attempts = emittedOf attempts' := by
  have hsame : (emittedOf attempts).Perm (emittedOf attempts') :=
    (List.mergeSort_perm _ _).trans
      ((hperm.filterMap _).trans (List.mergeSort_perm _ _).symm)
  refine hsame.eq_of_pairwise (fun a b ha hb hab hba => ?_) (pairwise_emittedOf _)
    (pairwise_emittedOf _)
  exact List.inj_on_of_nodup_map hnodup ha (hsame.mem_iff.2 hb) (le_antisymm hab hba)

/-! ## One raw definition -/

namespace RawDefinition

/-- Whether a raw definition breaks no rule. -/
def isWellFormed (raw : RawDefinition) : Bool := (violations raw.value).isEmpty

/-- The definition that a raw one stands for where no other has its name. -/
def definition? (raw : RawDefinition) : Option Definition := (readEntry [] 0 raw).toOption

/-- What is found about a raw definition at an index, where no other has its name. -/
def problems (documentation : Bool) (raw : RawDefinition) (index : Nat) : List Diagnostic :=
  (if documentation then documentationWarnings (raw.label index) raw.value else [])
    ++ match readEntry [] index raw with
      | .ok _ => []
      | .error es => es

end RawDefinition

open RawDefinition

/-- The names that are taken do not matter to a definition that has none of them. -/
theorem readEntry_eq_of_notMem {taken : List String} {raw : RawDefinition}
    (h : raw.isWellFormed = true → ∀ name ∈ taken, raw.typeName? ≠ some name) (index : Nat) :
    readEntry taken index raw = readEntry [] index raw := by
  unfold readEntry
  dsimp only
  split
  · rfl
  · next hviolations =>
      split
      · rfl
      · next d hd =>
          have hname := typeName?_of_decode hviolations hd
          have hnot : d.typeName ∉ taken := fun hmem =>
            h (List.isEmpty_iff.2 hviolations) _ hmem hname
          simp [hnot]

/-- The index of a raw definition is read for its label only. -/
theorem toOption_readEntry (index : Nat) (raw : RawDefinition) :
    (readEntry [] index raw).toOption = raw.definition? := by
  unfold definition? readEntry
  dsimp only
  split
  · rfl
  · split
    · rfl
    · rfl

variable {documentation : Bool}

/-- What is found about a definition that is left out are its warnings and its errors. -/
theorem RawDefinition.problems_of_error {raw : RawDefinition} {index : Nat} {es : List Diagnostic}
    (h : readEntry [] index raw = .error es) : raw.problems documentation index
      = (if documentation then documentationWarnings (raw.label index) raw.value else [])
        ++ es := by
  unfold problems
  rw [h]

/-- What is found about one that is read are its warnings. -/
theorem RawDefinition.problems_of_ok {raw : RawDefinition} {index : Nat} {d : Definition}
    (h : readEntry [] index raw = .ok d) : raw.problems documentation index
      = if documentation then documentationWarnings (raw.label index) raw.value else [] := by
  unfold problems
  rw [h, List.append_nil]

/-- What is read of a store is what is read of each raw definition for itself, where no two
well-formed ones have the same name. -/
theorem readAll_eq {taken : List String} {index : Nat} {entries : List RawDefinition}
    (hnodup : ((entries.filter isWellFormed).map typeName?).Nodup)
    (htaken : ∀ raw ∈ entries, raw.isWellFormed = true →
      ∀ name ∈ taken, raw.typeName? ≠ some name) :
    readAll documentation taken index entries
      = (entries.filterMap definition?,
        (entries.zipIdx index).flatMap fun entry => entry.1.problems documentation entry.2) := by
  induction entries generalizing taken index with
  | nil => rw [readAll_nil, List.filterMap_nil, List.zipIdx_nil, List.flatMap_nil]
  | cons raw rest ih =>
      have hentry := readEntry_eq_of_notMem (htaken raw List.mem_cons_self) index
      have hrest : ((rest.filter isWellFormed).map typeName?).Nodup :=
        hnodup.sublist (((List.sublist_cons_self raw rest).filter _).map _)
      have htaken' : ∀ other ∈ rest, other.isWellFormed = true →
          ∀ name ∈ taken, other.typeName? ≠ some name :=
        fun other hother => htaken other (List.mem_cons_of_mem raw hother)
      rw [List.zipIdx_cons, List.flatMap_cons]
      cases hraw : readEntry [] index raw with
      | error es =>
          have hnone : raw.definition? = none := by
            rw [← toOption_readEntry index raw, hraw]
            rfl
          rw [readAll_cons_error (hentry.trans hraw), ih hrest htaken',
            List.filterMap_cons_none hnone, problems_of_error hraw]
      | ok d =>
          have hsome : raw.definition? = some d := by
            rw [← toOption_readEntry index raw, hraw]
            rfl
          obtain ⟨hviolations, -, e, he, rfl⟩ := of_readEntry_eq_ok hraw
          have hname := typeName?_of_decode hviolations he
          -- The name that is taken now is that of no other well-formed definition.
          have hnew : ∀ other ∈ rest, other.isWellFormed = true →
              ∀ name ∈ e.typeName :: taken, other.typeName? ≠ some name := by
            intro other hother hwell name hmem heq
            rcases List.mem_cons.1 hmem with rfl | hmem
            · have hself : raw.isWellFormed = true := List.isEmpty_iff.2 hviolations
              rw [List.filter_cons_of_pos hself, List.map_cons, List.nodup_cons, hname,
                ← heq] at hnodup
              exact hnodup.1 (List.mem_map_of_mem (List.mem_filter.2 ⟨hother, hwell⟩))
            · exact htaken' other hother hwell name hmem heq
          rw [readAll_cons_ok (hentry.trans hraw), Definition.withDefaults_typeName,
            ih hrest hnew, List.filterMap_cons_some hsome, problems_of_ok hraw]

/-! ## Numbers of raw definitions -/

/-- A diagnostic whose type is called by a number, without the number. -/
def Diagnostic.withoutNumber (d : Diagnostic) : Diagnostic :=
  match d.typeName.toList with
  | '#' :: digits => if digits.all Char.isDigit then { d with typeName := "#" } else d
  | _ => d

/-- Two labels of a raw definition are the same but for its number. -/
theorem Violation.withoutNumber_toDiagnostic (v : Violation) (raw : RawDefinition) (i j : Nat) :
    (v.toDiagnostic (raw.label i)).withoutNumber
      = (v.toDiagnostic (raw.label j)).withoutNumber := by
  have hnumber (n : Nat) : (v.toDiagnostic ("#" ++ toString n)).withoutNumber
      = v.toDiagnostic "#" := by
    have hdigits : (Nat.toDigits 10 n).all Char.isDigit = true := by
      rw [List.all_eq_true]
      exact fun c hc => Nat.isDigit_of_mem_toDigits (by decide) (by decide) hc
    have hlist : ("#" ++ toString n).toList = '#' :: Nat.toDigits 10 n := by
      simp [String.toList_append]
    unfold Diagnostic.withoutNumber
    show (match ("#" ++ toString n).toList with | '#' :: digits => _ | _ => _) = _
    rw [hlist]
    show (if (Nat.toDigits 10 n).all Char.isDigit then _ else _) = _
    rw [if_pos hdigits]
    rfl
  unfold label
  cases raw.typeName? with
  | some name => rfl
  | none =>
      cases raw.source with
      | some source => rfl
      | none => exact (hnumber i).trans (hnumber j).symm

/-- What is found about a raw definition is the same at every index but for its number. -/
theorem RawDefinition.withoutNumber_problems (raw : RawDefinition) (i j : Nat) :
    (raw.problems documentation i).map Diagnostic.withoutNumber
      = (raw.problems documentation j).map Diagnostic.withoutNumber := by
  have hmap (vs : List Violation) :
      (vs.map (·.toDiagnostic (raw.label i))).map Diagnostic.withoutNumber
        = (vs.map (·.toDiagnostic (raw.label j))).map Diagnostic.withoutNumber := by
    rw [List.map_map, List.map_map]
    exact List.map_congr_left fun v _ => v.withoutNumber_toDiagnostic raw i j
  have hwarnings : (documentationWarnings (raw.label i) raw.value).map Diagnostic.withoutNumber
      = (documentationWarnings (raw.label j) raw.value).map Diagnostic.withoutNumber := hmap _
  unfold problems
  rw [List.map_append, List.map_append]
  congr 1
  · cases documentation with
    | true => exact hwarnings
    | false => rfl
  · unfold readEntry
    cases violations raw.value with
    | cons v vs => exact hmap (v :: vs)
    | nil =>
        cases Definition.decode raw.value with
        | error m => exact hmap [m.toViolation]
        | ok d => rfl

/-- A raw definition that has a name or a source is called the same at every index. -/
theorem RawDefinition.problems_eq {raw : RawDefinition}
    (h : raw.typeName?.isSome = true ∨ raw.source.isSome = true) (i j : Nat) :
    raw.problems documentation i = raw.problems documentation j := by
  have hlabel : raw.label i = raw.label j := by
    unfold label
    cases hname : raw.typeName? with
    | some name => rfl
    | none =>
        cases hsource : raw.source with
        | some source => rfl
        | none => simp [hname, hsource] at h
  unfold problems readEntry
  rw [hlabel]
  cases violations raw.value with
  | cons v vs => rfl
  | nil =>
      cases Definition.decode raw.value with
      | error m => rfl
      | ok d => rfl

/-- What is the same of every item, whatever its index, is collected without the indices. -/
theorem flatMap_zipIdx_eq {α β : Type} {xs : List α} {f : α → Nat → List β} {g : α → List β}
    (h : ∀ x ∈ xs, ∀ i, f x i = g x) (n : Nat) :
    (xs.zipIdx n).flatMap (fun entry => f entry.1 entry.2) = xs.flatMap g := by
  have hsame : (xs.zipIdx n).flatMap (fun entry => f entry.1 entry.2)
      = (xs.zipIdx n).flatMap fun entry => g entry.1 :=
    List.flatMap_congr fun entry hentry => h entry.1 (List.fst_mem_of_mem_zipIdx hentry) entry.2
  rw [hsame, ← List.flatMap_map Prod.fst g, List.zipIdx_map_fst]

section Store

variable {entries entries' : List RawDefinition}

/-- The definitions of another order of the store are the same in another order. -/
theorem definitions_readAll_perm (hperm : entries.Perm entries')
    (hnodup : ((entries.filter isWellFormed).map typeName?).Nodup) :
    (readAll documentation [] 0 entries).1.Perm (readAll documentation [] 0 entries').1 := by
  have hnodup' := ((hperm.filter isWellFormed).map typeName?).nodup_iff.1 hnodup
  rw [readAll_eq hnodup (by simp), readAll_eq hnodup' (by simp)]
  exact hperm.filterMap _

/-- What is found about them is the same but for their numbers. -/
theorem withoutNumber_readAll_perm (hperm : entries.Perm entries')
    (hnodup : ((entries.filter isWellFormed).map typeName?).Nodup) :
    ((readAll documentation [] 0 entries).2.map Diagnostic.withoutNumber).Perm
      ((readAll documentation [] 0 entries').2.map Diagnostic.withoutNumber) := by
  have hnodup' := ((hperm.filter isWellFormed).map typeName?).nodup_iff.1 hnodup
  have hfound (raw : RawDefinition) (i : Nat) :
      (raw.problems documentation i).map Diagnostic.withoutNumber
        = (raw.problems documentation 0).map Diagnostic.withoutNumber :=
    raw.withoutNumber_problems i 0
  rw [readAll_eq hnodup (by simp), readAll_eq hnodup' (by simp), List.map_flatMap,
    List.map_flatMap, flatMap_zipIdx_eq fun raw _ => hfound raw,
    flatMap_zipIdx_eq fun raw _ => hfound raw]
  exact hperm.flatMap_right _

/-- And it is the same with the numbers where no definition is called by one. -/
theorem found_readAll_perm (hperm : entries.Perm entries')
    (hnodup : ((entries.filter isWellFormed).map typeName?).Nodup)
    (hnamed : ∀ raw ∈ entries, raw.typeName?.isSome = true ∨ raw.source.isSome = true) :
    (readAll documentation [] 0 entries).2.Perm (readAll documentation [] 0 entries').2 := by
  have hnodup' := ((hperm.filter isWellFormed).map typeName?).nodup_iff.1 hnodup
  rw [readAll_eq hnodup (by simp), readAll_eq hnodup' (by simp),
    flatMap_zipIdx_eq fun raw hraw i => problems_eq (hnamed raw hraw) i 0,
    flatMap_zipIdx_eq fun raw hraw i => problems_eq (hnamed raw (hperm.mem_iff.2 hraw)) i 0]
  exact hperm.flatMap_right _

end Store

/-! ## Reports -/

/-- To leave the numbers out changes no kind. -/
@[simp]
theorem Diagnostic.kind_withoutNumber (d : Diagnostic) : d.withoutNumber.kind = d.kind := by
  unfold withoutNumber
  split
  · split
    · rfl
    · rfl
  · rfl

/-- Diagnostics that are the same but for their numbers stay so when some kinds are left out. -/
theorem withoutNumber_filter_perm {ds es : List Diagnostic} (p : Kind → Bool)
    (h : (ds.map Diagnostic.withoutNumber).Perm (es.map Diagnostic.withoutNumber)) :
    ((ds.filter fun d => p d.kind).map Diagnostic.withoutNumber).Perm
      ((es.filter fun d => p d.kind).map Diagnostic.withoutNumber) := by
  have hfilter (xs : List Diagnostic) : (xs.filter fun d => p d.kind).map Diagnostic.withoutNumber
      = (xs.map Diagnostic.withoutNumber).filter fun d => p d.kind := by
    rw [List.filter_map]
    simp [Function.comp_def]
  rw [hfilter, hfilter]
  exact h.filter _

namespace Catalog

variable (settings : Settings) (formats : List Format) (store : Store)

/-- What the stages between the reading of the store and the type map report. -/
def problems : List Diagnostic :=
  unresolvedOf (emitAll (.ofDomain settings.domain) (ofStore settings formats store).definitions)
    ++ (schemaProblems (compileAll (engineOf settings formats store)
        (ofStore settings formats store).documents)
      ++ (ofStore settings formats store).definitions.flatMap
        (valueProblems (ofStore settings formats store).validators))

/-- What the stages before the type map report. -/
def found : List Diagnostic :=
  (readAll settings.documentation [] 0 store.entries).2 ++ problems settings formats store

/-- The report holds what the stages found, and the circles of the type map. -/
theorem report_ofStore : (ofStore settings formats store).report
    = (Report.ofList (found settings formats store)).extend
      (ofStore settings formats store).typeMap.cycles := by
  unfold found problems
  rw [← List.append_assoc, ← List.append_assoc]
  rfl

/-- What a batch reports is what its stages find, in their order, with the circles of its type map
behind. -/
theorem files_report : (ofStore settings formats store).report.Files
    (found settings formats store ++ (ofStore settings formats store).typeMap.cycles) := by
  rw [report_ofStore, Report.ofList, Report.extend_extend]
  exact Report.files_ofList _

/-- The errors are those among what was found, and the circles. -/
theorem errors_report : (ofStore settings formats store).report.errors
    = (found settings formats store).filter (·.severity = .error)
      ++ (ofStore settings formats store).typeMap.cycles.filter (·.severity = .error) := by
  rw [(files_report settings formats store).errors, List.filter_append]

/-- So are the warnings. -/
theorem warnings_report : (ofStore settings formats store).report.warnings
    = (found settings formats store).filter (·.severity = .warning)
      ++ (ofStore settings formats store).typeMap.cycles.filter (·.severity = .warning) := by
  rw [(files_report settings formats store).warnings, List.filter_append]

/-- What is found behind the reading are errors. -/
theorem isError_of_mem_problems {d : Diagnostic} (h : d ∈ problems settings formats store) :
    d.IsError := by
  unfold problems at h
  -- The three stages are the references, the schemas and the declared values.
  rcases List.mem_append.1 h with h | h
  · obtain ⟨⟨definition, result⟩, hattempt, h⟩ := List.mem_flatMap.1 h
    obtain ⟨e, -, heq⟩ := List.mem_map.1 hattempt
    obtain ⟨rfl, rfl⟩ := Prod.mk.inj heq
    dsimp only at h
    by_cases hnil : (Emitter.ofDomain settings.domain).unresolvedReferences
        (.ofDefinitions (ofStore settings formats store).definitions) e = []
    · unfold Emitter.emit at h
      rw [hnil] at h
      cases h
    · rw [Emitter.emit_eq_error _ _ hnil] at h
      obtain ⟨v, hv, rfl⟩ := List.mem_map.1 h
      exact Diagnostic.isError_of_not_isDocumentation
        (Emitter.isError_of_mem_unresolvedReferences hv) _
  · rcases List.mem_append.1 h with h | h
    · obtain ⟨⟨name, result⟩, -, h⟩ := List.mem_filterMap.1 h
      cases result with
      | ok t => cases h
      | error fault =>
          cases h
          rfl
    · obtain ⟨e, -, h⟩ := List.mem_flatMap.1 h
      exact (isOfValues_of_mem_valueProblems h).isError

/-- The warnings of a batch are all found when the store is read. -/
theorem warnings_ofStore : (ofStore settings formats store).report.warnings
    = (readAll settings.documentation [] 0 store.entries).2.filter
      (·.kind.severity = .warning) := by
  have hnone (ds : List Diagnostic) (hds : ∀ d ∈ ds, d.IsError) :
      ds.filter (·.severity = .warning) = [] := by
    refine List.filter_eq_nil_iff.2 fun d hd hwarning => ?_
    have herror : d.severity = .error := hds d hd
    simp [herror] at hwarning
  have hcycles := hnone (ofStore settings formats store).typeMap.cycles
    fun d hd => TypeMap.isError_of_mem_cyclesFrom hd
  have hproblems := hnone (problems settings formats store)
    fun d hd => isError_of_mem_problems settings formats store hd
  rw [warnings_report, hcycles, List.append_nil, found, List.filter_append, hproblems,
    List.append_nil]
  rfl

/-- The errors of a batch but for those of the type map. -/
theorem errors_ofStore : (ofStore settings formats store).report.errors.filter
      (·.kind ≠ .cyclicReference)
    = (found settings formats store).filter
      fun d => d.kind.severity = .error ∧ d.kind ≠ .cyclicReference := by
  have hcycles : ((ofStore settings formats store).typeMap.cycles.filter
      (·.severity = .error)).filter (·.kind ≠ .cyclicReference) = [] := by
    refine List.filter_eq_nil_iff.2 fun d hd => ?_
    obtain ⟨name, -, c, -, rfl, -⟩ := TypeMap.exists_of_mem_cyclesFrom (List.mem_filter.1 hd).1
    simp [Cycle.toDiagnostic, Diagnostic.ofKind]
  rw [errors_report, List.filter_append, hcycles, List.append_nil, List.filter_filter]
  refine List.filter_congr fun d _ => ?_
  rw [Bool.and_comm, ← Bool.decide_and]
  rfl

variable {settings formats} {store store' : Store}

section Perm

variable (hperm : store.entries.Perm store'.entries)
  (hnodup : ((store.entries.filter isWellFormed).map typeName?).Nodup)

include hperm hnodup

/-- The definitions of the other store are the same, in another order. -/
theorem definitions_ofStore_perm : (ofStore settings formats store).definitions.Perm
    (ofStore settings formats store').definitions :=
  definitions_readAll_perm hperm hnodup

/-- Of every definition the same becomes. -/
theorem emitAll_ofStore_perm :
    (emitAll (.ofDomain settings.domain) (ofStore settings formats store).definitions).Perm
      (emitAll (.ofDomain settings.domain) (ofStore settings formats store').definitions) := by
  have hdefinitions := @definitions_ofStore_perm settings formats store store' hperm hnodup
  unfold emitAll
  rw [KnownTypes.ofDefinitions_perm hdefinitions typeNames_nodup]
  exact hdefinitions.map _

/-- Another order of the store gives the same documents. -/
theorem emitted_ofStore_eq :
    (ofStore settings formats store).emitted = (ofStore settings formats store').emitted := by
  rw [emitted_ofStore, emitted_ofStore]
  exact emittedOf_eq_of_perm (emitAll_ofStore_perm hperm hnodup)
    (emitted_fst_nodup typeNames_nodup)

/-- The documents are sorted by their names, and so they are the same lists. -/
theorem documents_ofStore_eq :
    (ofStore settings formats store).documents = (ofStore settings formats store').documents :=
  congrArg (fun emitted => emitted.flatMap (·.2.documents)) (emitted_ofStore_eq hperm hnodup)

/-- And the engines are the same. -/
theorem engineOf_eq : engineOf settings formats store = engineOf settings formats store' := by
  unfold engineOf
  rw [documents_ofStore_eq hperm hnodup]

/-- Another order of the store gives the same validators. -/
theorem validators_ofStore_eq :
    (ofStore settings formats store).validators = (ofStore settings formats store').validators := by
  rw [validators_ofStore, validators_ofStore, engineOf_eq hperm hnodup,
    documents_ofStore_eq hperm hnodup]

/-- The stages behind the reading of the store report the same. -/
theorem problems_perm :
    (problems settings formats store).Perm (problems settings formats store') := by
  have hunresolved : (unresolvedOf
      (emitAll (.ofDomain settings.domain) (ofStore settings formats store).definitions)).Perm
      (unresolvedOf
        (emitAll (.ofDomain settings.domain) (ofStore settings formats store').definitions)) :=
    (emitAll_ofStore_perm hperm hnodup).flatMap_right _
  unfold problems
  rw [engineOf_eq hperm hnodup, documents_ofStore_eq hperm hnodup,
    validators_ofStore_eq hperm hnodup]
  exact hunresolved.append
    (((definitions_ofStore_perm hperm hnodup).flatMap_right _).append_left _)

/-- What is found is the same but for the order and the numbers. -/
theorem withoutNumber_found_perm :
    ((found settings formats store).map Diagnostic.withoutNumber).Perm
      ((found settings formats store').map Diagnostic.withoutNumber) := by
  unfold found
  rw [List.map_append, List.map_append]
  exact (withoutNumber_readAll_perm hperm hnodup).append ((problems_perm hperm hnodup).map _)

/-- The numbers do not show where every definition has a name or a source. -/
theorem found_perm
    (hnamed : ∀ raw ∈ store.entries, raw.typeName?.isSome = true ∨ raw.source.isSome = true) :
    (found settings formats store).Perm (found settings formats store') :=
  (found_readAll_perm hperm hnodup hnamed).append (problems_perm hperm hnodup)

end Perm

/-- The order of a store does not matter where no two well-formed definitions have the same name.
Every name has the same document, the same fingerprint and the same answers to all values and lists
of values. The same warnings are reported, and the same errors but for those on circles, where the
numbers are left out that stand for definitions which have neither a name nor a source. -/
theorem ofStore_perm (settings : Settings) (formats : List Format) (store store' : Store)
    (hperm : store.entries.Perm store'.entries)
    (hnodup : ((store.entries.filter isWellFormed).map typeName?).Nodup) :
    let c := ofStore settings formats store
    let c' := ofStore settings formats store'
    (∀ system name,
      (c.document? system name).map (·.schema) = (c'.document? system name).map (·.schema)
      ∧ c.fingerprint? system name = c'.fingerprint? system name
      ∧ c.hasValidator system name = c'.hasValidator system name
      ∧ ∀ v, c.validate? system name v = c'.validate? system name v
        ∧ c.validateList? system name v = c'.validateList? system name v)
    ∧ (c.report.warnings.map Diagnostic.withoutNumber).Perm
      (c'.report.warnings.map Diagnostic.withoutNumber)
    ∧ ((c.report.errors.filter (·.kind ≠ .cyclicReference)).map Diagnostic.withoutNumber).Perm
      ((c'.report.errors.filter (·.kind ≠ .cyclicReference)).map Diagnostic.withoutNumber)
    ∧ ((∀ raw ∈ store.entries, raw.typeName?.isSome = true ∨ raw.source.isSome = true) →
      c.report.warnings.Perm c'.report.warnings
      ∧ (c.report.errors.filter (·.kind ≠ .cyclicReference)).Perm
        (c'.report.errors.filter (·.kind ≠ .cyclicReference))) := by
  intro c c'
  have hdocuments : c.documents = c'.documents := documents_ofStore_eq hperm hnodup
  have hvalidators : c.validators = c'.validators := validators_ofStore_eq hperm hnodup
  refine ⟨?_, ?_, ?_, ?_⟩
  · intro system name
    have hdocument : c.document? system name = c'.document? system name := by
      unfold document?
      rw [hdocuments]
    have hvalidator : c.validator? system name = c'.validator? system name := by
      unfold validator?
      rw [hvalidators]
    refine ⟨by rw [hdocument], ?_, ?_, fun v => ⟨?_, ?_⟩⟩
    · unfold fingerprint?
      rw [hdocument]
    · unfold hasValidator
      rw [hvalidator]
    · unfold validate?
      rw [hvalidator]
    · unfold validateList?
      rw [hvalidator]
  · rw [warnings_ofStore, warnings_ofStore]
    exact withoutNumber_filter_perm (fun kind => kind.severity = .warning)
      (withoutNumber_readAll_perm hperm hnodup)
  · rw [errors_ofStore, errors_ofStore]
    exact withoutNumber_filter_perm
      (fun kind => kind.severity = .error ∧ kind ≠ .cyclicReference)
      (withoutNumber_found_perm hperm hnodup)
  · intro hnamed
    rw [warnings_ofStore, warnings_ofStore, errors_ofStore, errors_ofStore]
    exact ⟨(found_readAll_perm hperm hnodup hnamed).filter _,
      (found_perm hperm hnodup hnamed).filter _⟩

/-- A flag, and a definition that has neither a name nor a source and lacks a summary. -/
def unnamedStore : Store := ⟨[
  ⟨none, .object [("kind", .string "bool"), ("validTestCases", .array [])]⟩,
  ⟨none, .object [("kind", .string "bool"), ("system", .string "test"), ("name", .string "flag"),
    ("summary", .string "A flag."), ("validTestCases", .array [])]⟩]⟩

/-- The same definitions in the other order. -/
def unnamedStoreReversed : Store := ⟨unnamedStore.entries.reverse⟩

/-- An example: a store with a definition without a name, and the same store reversed. -/
theorem ofStore_unnamedStore_perm :
    unnamedStore.entries.Perm unnamedStoreReversed.entries
    ∧ ((unnamedStore.entries.filter isWellFormed).map typeName?).Nodup
    ∧ ((ofStore .standard [] unnamedStore).report.warnings.map Diagnostic.withoutNumber).Perm
      ((ofStore .standard [] unnamedStoreReversed).report.warnings.map
        Diagnostic.withoutNumber) := by
  have hperm : unnamedStore.entries.Perm unnamedStoreReversed.entries :=
    (List.reverse_perm _).symm
  have hnodup : ((unnamedStore.entries.filter isWellFormed).map typeName?).Nodup := by
    decide +kernel
  exact ⟨hperm, hnodup, (ofStore_perm .standard [] _ _ hperm hnodup).2.1⟩

/-- With the numbers, what is reported does depend on the order: a definition without a name or a
source is called by its place, also in warnings. -/
theorem warnings_unnamedStore_not_perm :
    unnamedStore.entries.Perm unnamedStoreReversed.entries
    ∧ ((unnamedStore.entries.filter isWellFormed).map typeName?).Nodup
    ∧ ¬ (ofStore .standard [] unnamedStore).report.warnings.Perm
      (ofStore .standard [] unnamedStoreReversed).report.warnings := by
  refine ⟨(List.reverse_perm _).symm, by decide +kernel, fun hperm => ?_⟩
  rw [warnings_ofStore, warnings_ofStore] at hperm
  have hnames := hperm.map (·.typeName)
  have hfirst : ((readAll Settings.standard.documentation [] 0 unnamedStore.entries).2.filter
      (·.kind.severity = .warning)).map (·.typeName) = ["#0"] := by
    decide +kernel
  have hsecond : ((readAll Settings.standard.documentation [] 0
      unnamedStoreReversed.entries).2.filter (·.kind.severity = .warning)).map (·.typeName)
      = ["#1"] := by
    decide +kernel
  rw [hfirst, hsecond] at hnames
  exact absurd (List.perm_singleton.1 hnames) (by decide)

end Catalog

end TypeCatalog
