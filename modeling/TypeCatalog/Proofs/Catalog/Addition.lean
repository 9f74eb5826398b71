import TypeCatalog.Proofs.Catalog.Unreferenced

/-!
# A store with one more definition

A well-formed definition to which no other one refers is put somewhere into a store, and the two
batches are compared.

Where an earlier definition has its name, it is left out and reported (`readAll_defined`). Otherwise
the name is taken from its place on. So later definitions of the name are left out, and nothing else
changes in the reading (`readAll_of_taken`). The batch has the other definitions and the new one
then, and the stages behind the reading are compared by `Adds`.

The main statement, `ofStore_unreferenced`, puts it together: the two batches agree about all names
but those of the new definition and its variants, and all that was reported is reported still. Only
a later definition of the name is reported otherwise. Its references may have been unknown, and now
it is left out before they are looked at.

The reading is `readAll`, which takes names in the order of the store and numbers the definitions
for their labels. `Widens` compares two lists of diagnostics: those of the first one stand in the
second, with other numbers or other suggestions, and what is new is under the new names. `Keeps`
collects what holds behind the reading, and `AgreesApart` is what is said of two batches in the end.
-/

set_option autoImplicit false

namespace TypeCatalog

open Shape
open Diagnostic (Renumbered Changed)

/-! ## Raw definitions of a name -/

/-- Whether a raw definition is a well-formed one of a name. -/
def RawDefinition.Defines (raw : RawDefinition) (typeName : String) : Prop :=
  ∃ d, raw.definition? = some d ∧ d.typeName = typeName

/-- What is read of an entry breaks no rule, and is the decoded definition with its defaults. -/
theorem RawDefinition.definition?_eq_some {raw : RawDefinition} {x : Definition}
    (h : raw.definition? = some x) : violations raw.value = []
      ∧ ∃ d, Definition.decode raw.value = .ok d ∧ x = d.withDefaults := by
  obtain ⟨hviolations, -, hdecode⟩ := of_readEntry_eq_ok (Result.toOption_eq_some.1 h)
  exact ⟨hviolations, hdecode⟩

/-- And such an entry is read. -/
theorem RawDefinition.definition?_of_decode {raw : RawDefinition} {d : Definition}
    (hviolations : violations raw.value = []) (hd : Definition.decode raw.value = .ok d) :
    raw.definition? = some d.withDefaults := by
  unfold definition?
  rw [readEntry_eq_ok hviolations hd List.not_mem_nil]
  rfl

section Reading

variable {documentation : Bool} {taken taken' : List String} {index n : Nat} {t : String}

/-- What is read has a name that some raw definition defines. -/
theorem typeName_ne_of_mem_readAll {entries : List RawDefinition}
    (h : ∀ raw ∈ entries, ¬ raw.Defines t) {d : Definition}
    (hd : d ∈ (readAll documentation taken index entries).1) : d.typeName ≠ t := by
  obtain ⟨raw, hraw, hviolations, e, he, rfl⟩ := exists_of_mem_readAll hd
  exact fun hname => h raw hraw ⟨_, RawDefinition.definition?_of_decode hviolations he, hname⟩

/-! ## One more name that is taken -/

/-- One more name that is taken makes a difference to a definition of this name alone. -/
theorem readEntry_of_taken (htaken : ∀ name, name ∈ taken' ↔ name = t ∨ name ∈ taken)
    (raw : RawDefinition) : readEntry taken' index raw = readEntry taken index raw
      ∨ ∃ d, readEntry taken index raw = .ok d.withDefaults ∧ d.typeName = t
        ∧ readEntry taken' index raw = .error [duplicateName d index raw.source] := by
  unfold readEntry
  dsimp only
  split
  · exact .inl rfl
  · split
    · exact .inl rfl
    · next d hd =>
        simp only [List.contains_iff_mem, htaken]
        by_cases hmem : d.typeName ∈ taken
        · rw [if_pos hmem, if_pos (.inr hmem)]
          exact .inl rfl
        · by_cases hname : d.typeName = t
          · rw [if_neg hmem, if_pos (.inl hname)]
            exact .inr ⟨d, rfl, hname, rfl⟩
          · rw [if_neg hmem, if_neg (not_or_intro hname hmem)]
            exact .inl rfl

/-- Where one more name is taken, and numbers are raised by one, the definitions of this name are
left out. -/
theorem readAll_of_taken (htaken : ∀ name, name ∈ taken' ↔ name = t ∨ name ∈ taken)
    (hn : n ≤ index) {names : List String} (ht : t ∈ names) (entries : List RawDefinition) :
    (readAll documentation taken' (index + 1) entries).1
        = (readAll documentation taken index entries).1.filter (·.typeName ≠ t)
      ∧ Widens n names (readAll documentation taken index entries).2
        (readAll documentation taken' (index + 1) entries).2 := by
  induction entries generalizing taken taken' index with
  | nil =>
      rw [readAll_nil, readAll_nil]
      exact ⟨rfl, .nil⟩
  -- The entry is read in one reading or in both, or it is left out in both with the same errors.
  | cons raw rest ih =>
      have hwarnings : Widens n names
          (if documentation then documentationWarnings (raw.label index) raw.value else [])
          (if documentation then documentationWarnings (raw.label (index + 1)) raw.value else []) :=
        .of_renumbered (forall₂_renumbered_warnings raw hn)
      have hnext := Nat.le_succ_of_le hn
      rcases readEntry_succ taken raw hn with ⟨d, hd, hsucc⟩ | ⟨es, es', hes, hsucc, hrenumbered⟩
      · rcases @readEntry_of_taken taken taken' (index + 1) t htaken raw
          with hsame | ⟨e, he, hname, hleft⟩
        · -- It has another name, since it is read where the name is taken.
          have hd' := hsame.trans hsucc
          have hne : d.typeName ≠ t := fun heq =>
            (of_readEntry_eq_ok hd').2.1 ((htaken _).2 (.inl heq))
          have htaken' : ∀ name, name ∈ d.typeName :: taken'
              ↔ name = t ∨ name ∈ d.typeName :: taken := by
            intro name
            rw [List.mem_cons, List.mem_cons, htaken, or_left_comm]
          obtain ⟨hdefinitions, hfound⟩ := ih htaken' hnext
          rw [readAll_cons_ok hd, readAll_cons_ok hd', hdefinitions]
          refine ⟨(List.filter_cons_of_pos ?_).symm, hwarnings.append hfound⟩
          exact decide_eq_true hne
        · -- The name is its own, and taken from here on in both readings.
          obtain rfl : d = e.withDefaults := Except.ok.inj (hsucc.symm.trans he)
          have hself : e.withDefaults.typeName = t :=
            (Definition.withDefaults_typeName e).trans hname
          have htaken' : ∀ name, name ∈ taken'
              ↔ name = t ∨ name ∈ e.withDefaults.typeName :: taken := by
            intro name
            rw [hself, List.mem_cons, htaken, or_self_left]
          obtain ⟨hdefinitions, hfound⟩ := ih htaken' hnext
          have hown : Widens n names [] [duplicateName e (index + 1) raw.source] :=
            .own (hname.symm ▸ ht : e.typeName ∈ names) .nil
          rw [readAll_cons_ok hd, readAll_cons_error hleft, hdefinitions, List.append_assoc]
          refine ⟨(List.filter_cons_of_neg ?_).symm, hwarnings.append (hown.append hfound)⟩
          rw [hself]
          simp
      · have hsame : readEntry taken' (index + 1) raw = .error es' := by
          rcases @readEntry_of_taken taken taken' (index + 1) t htaken raw
            with hsame | ⟨e, he, -, -⟩
          · exact hsame.trans hsucc
          · exact absurd (hsucc.symm.trans he) nofun
        obtain ⟨hdefinitions, hfound⟩ := ih htaken hnext
        rw [readAll_cons_error hes, readAll_cons_error hsame, hdefinitions]
        exact ⟨rfl, (hwarnings.append (.of_renumbered hrenumbered)).append hfound⟩

/-- What lacks in the documentation of a well-formed definition is found under its name. -/
theorem typeName_of_mem_warnings {raw : RawDefinition} {x : Definition}
    (hraw : raw.definition? = some x) {y : Diagnostic}
    (hy : y ∈ if documentation then documentationWarnings (raw.label index) raw.value else []) :
    y.typeName = x.typeName := by
  obtain ⟨hviolations, d, hd, rfl⟩ := RawDefinition.definition?_eq_some hraw
  split at hy
  · obtain ⟨w, -, rfl⟩ := List.mem_map.1 hy
    show raw.label index = _
    unfold RawDefinition.label
    rw [typeName?_of_decode hviolations hd, Definition.withDefaults_typeName]
  · cases hy

/-- A well-formed definition whose name is new is read, and those of its name behind it are left
out. -/
theorem readAll_add {front : List RawDefinition} {raw : RawDefinition} {x : Definition}
    (hraw : raw.definition? = some x) (hfront : ∀ earlier ∈ front, ¬ earlier.Defines x.typeName)
    (back : List RawDefinition) : ∃ as bs,
      (readAll documentation [] 0 (front ++ back)).1.filter (·.typeName ≠ x.typeName) = as ++ bs
      ∧ (readAll documentation [] 0 (front ++ raw :: back)).1 = as ++ x :: bs
      ∧ Widens front.length x.typeNames (readAll documentation [] 0 (front ++ back)).2
        (readAll documentation [] 0 (front ++ raw :: back)).2 := by
  have hothers : ∀ d ∈ (readAll documentation [] 0 front).1, d.typeName ≠ x.typeName :=
    fun d hd => typeName_ne_of_mem_readAll hfront hd
  have hnew : x.typeName ∉ takenBehind documentation [] 0 front := by
    unfold takenBehind
    rw [List.append_nil, List.mem_reverse]
    intro hmem
    obtain ⟨d, hd, heq⟩ := List.mem_map.1 hmem
    exact hothers d hd heq
  have hread : readEntry (takenBehind documentation [] 0 front) front.length raw = .ok x := by
    obtain ⟨hviolations, d, hd, rfl⟩ := RawDefinition.definition?_eq_some hraw
    rw [Definition.withDefaults_typeName] at hnew
    exact readEntry_eq_ok hviolations hd hnew
  obtain ⟨hdefinitions, hfound⟩ := @readAll_of_taken documentation
    (takenBehind documentation [] 0 front) (x.typeName :: takenBehind documentation [] 0 front)
    front.length front.length x.typeName (fun name => List.mem_cons) (Nat.le_refl _) x.typeNames
    List.mem_cons_self back
  refine ⟨(readAll documentation [] 0 front).1, (readAll documentation
    (x.typeName :: takenBehind documentation [] 0 front) (front.length + 1) back).1, ?_, ?_, ?_⟩
  · rw [readAll_append, Nat.zero_add, List.filter_append,
      List.filter_eq_self.2 fun d hd => decide_eq_true (hothers d hd), ← hdefinitions]
  · rw [readAll_append, Nat.zero_add, readAll_cons_ok hread]
  · have hwarnings : Widens front.length x.typeNames []
        (if documentation then documentationWarnings (raw.label front.length) raw.value else []) :=
      .of_own fun y hy => typeName_of_mem_warnings hraw hy ▸ List.mem_cons_self
    rw [readAll_append, readAll_append, Nat.zero_add, readAll_cons_ok hread]
    exact (Widens.refl _).append (hwarnings.append hfound)

end Reading

/-- Diagnostics that are put in at one place under a name. -/
theorem Inserts.widens {n : Nat} {names : List String} {own xs ys : List Diagnostic}
    (h : Inserts n own xs ys) (hown : ∀ y ∈ own, y.typeName ∈ names) : Widens n names xs ys := by
  obtain ⟨before, after, after', rfl, rfl, hafter⟩ := h
  rw [List.append_assoc]
  exact (Widens.refl before).append ((Widens.of_own hown).append (.of_renumbered hafter))

namespace Catalog

/-! ## The two batches -/

variable {settings : Settings} {formats : List Format} {front back : List RawDefinition}
  {raw : RawDefinition} {x : Definition}

/-- A well-formed definition of a name that is taken changes no definition. -/
theorem readAll_defined {documentation : Bool} (hraw : raw.definition? = some x)
    (hfront : ∃ earlier ∈ front, earlier.Defines x.typeName) :
    (readAll documentation [] 0 (front ++ raw :: back)).1
        = (readAll documentation [] 0 (front ++ back)).1
      ∧ Widens front.length x.typeNames (readAll documentation [] 0 (front ++ back)).2
        (readAll documentation [] 0 (front ++ raw :: back)).2 := by
  obtain ⟨hviolations, d, hd, rfl⟩ := RawDefinition.definition?_eq_some hraw
  obtain ⟨earlier, hearlier, e, he, hname⟩ := hfront
  obtain ⟨hwell, e, hdecode, rfl⟩ := RawDefinition.definition?_eq_some he
  have hself := Definition.withDefaults_typeName d
  rw [Definition.withDefaults_typeName, hself] at hname
  have htaken : d.typeName ∈ takenBehind documentation [] 0 front :=
    hname ▸ mem_takenBehind hearlier hwell hdecode
  obtain ⟨hdefinitions, notes, hnotes, hread⟩ :=
    readAll_insert (readEntry_of_mem_taken hviolations hd htaken) back
  have hlabel : raw.label front.length = d.withDefaults.typeName := by
    unfold RawDefinition.label
    rw [typeName?_of_decode hviolations hd, hself]
  have hown : ∀ y ∈ notes ++ [duplicateName d front.length raw.source],
      y.typeName = d.withDefaults.typeName := by
    rw [List.forall_mem_append, List.forall_mem_singleton]
    exact ⟨fun y hy => (hnotes y hy).2.trans hlabel, hself.symm⟩
  exact ⟨hdefinitions, hread.widens fun y hy => hown y hy ▸ List.mem_cons_self⟩

/-- Batches that agree agree apart from any names. -/
theorem Agrees.agreesApart {c c' : Catalog} (h : c.Agrees c') (names : List String) :
    AgreesApart names c c' :=
  ⟨fun system name _ => h.document? system name, fun system name _ => h.fingerprint? system name,
    fun system name _ => h.hasValidator system name,
    fun system name _ v => h.validate? system name v,
    fun system name _ v => h.validateList? system name v⟩

/-- What two batches have in common where the second store has one more definition: the answers
about other names, and what the stages report but for what was unknown to a definition of the name.
-/
structure Keeps (settings : Settings) (formats : List Format) (store store' : Store) (n : Nat)
    (x : Definition) : Prop where
  agreesApart : AgreesApart x.typeNames (ofStore settings formats store)
    (ofStore settings formats store')
  cycles : (ofStore settings formats store').typeMap.cycles = []
  read : Widens n x.typeNames (readAll settings.documentation [] 0 store.entries).2
    (readAll settings.documentation [] 0 store'.entries).2
  known : Widens n x.typeNames
    ((problems settings formats store).filter fun y => !y.isUnknownIn x.typeName)
    (problems settings formats store')

/-- A definition of a name that is taken makes no difference at all behind the reading. -/
theorem keeps_of_defined (hraw : raw.definition? = some x)
    (hfront : ∃ earlier ∈ front, earlier.Defines x.typeName)
    (h : (ofStore settings formats ⟨front ++ back⟩).Unreferenced x) :
    Keeps settings formats ⟨front ++ back⟩ ⟨front ++ raw :: back⟩ front.length x
      ∧ Widens front.length x.typeNames (problems settings formats ⟨front ++ back⟩)
        (problems settings formats ⟨front ++ raw :: back⟩) := by
  obtain ⟨hdefinitions, hread⟩ :=
    @readAll_defined front back raw x settings.documentation hraw hfront
  have hsame : (ofStore settings formats ⟨front ++ raw :: back⟩).definitions
      = (ofStore settings formats ⟨front ++ back⟩).definitions := hdefinitions
  have hproblems := problems_congr hsame
  refine ⟨⟨(agrees_of_definitions hsame).agreesApart _, ?_, hread, ?_⟩, ?_⟩
  · rw [typeMap_congr hsame]
    exact cycles_eq_nil_of_kinds h.kinds
  · rw [hproblems]
    refine .of_filter fun y _ hy => ?_
    rw [Bool.not_eq_false'] at hy
    exact (of_decide_eq_true hy).1 ▸ List.mem_cons_self
  · rw [hproblems]
    exact .refl _

/-- A definition of a new name is added to the others. -/
theorem keeps_of_new (hraw : raw.definition? = some x)
    (hfront : ∀ earlier ∈ front, ¬ earlier.Defines x.typeName)
    (h : (ofStore settings formats ⟨front ++ back⟩).Unreferenced x) :
    Keeps settings formats ⟨front ++ back⟩ ⟨front ++ raw :: back⟩ front.length x := by
  obtain ⟨as, bs, hbefore, hafter, hread⟩ :=
    @readAll_add settings.documentation front raw x hraw hfront back
  have hadds : Adds settings formats ⟨front ++ back⟩ ⟨front ++ raw :: back⟩ as bs x :=
    ⟨hbefore, hafter, h⟩
  exact ⟨hadds.agreesApart, hadds.cycles_eq_nil, hread, hadds.widens_problems _⟩

/-- Without circles the errors are those that the stages before the type map find. -/
theorem errors_of_cycles {store : Store}
    (h : (ofStore settings formats store).typeMap.cycles = []) :
    (ofStore settings formats store).report.errors
      = (found settings formats store).filter (·.severity = .error) := by
  rw [errors_report, h, List.filter_nil, List.append_nil]

/-- A definition to which no other one refers changes nothing for the others, wherever it is put
into a store. The batch gives the same answers about every name but that of the definition and those
of its variants. What was reported is reported still, but for the numbers of the definitions behind
the new one and for what is suggested in the place of unknown types, and what is reported besides is
reported under the new names.

A later definition of the name is the exception, where no earlier one has the name. It refers to
something unknown, or it would have a document of the name; this is not reported any more, since now
it is left out. -/
theorem ofStore_unreferenced (settings : Settings) (formats : List Format)
    (front back : List RawDefinition) (raw : RawDefinition) (x : Definition)
    (hraw : raw.definition? = some x)
    (h : (ofStore settings formats ⟨front ++ back⟩).Unreferenced x) :
    let c := ofStore settings formats ⟨front ++ back⟩
    let c' := ofStore settings formats ⟨front ++ raw :: back⟩
    AgreesApart x.typeNames c c'
    ∧ Widens front.length x.typeNames c.report.warnings c'.report.warnings
    ∧ Widens front.length x.typeNames
      (c.report.errors.filter fun y => !y.isUnknownIn x.typeName) c'.report.errors
    ∧ ((∀ later ∈ back, later.Defines x.typeName →
        ∃ earlier ∈ front, earlier.Defines x.typeName) →
      Widens front.length x.typeNames c.report.errors c'.report.errors) := by
  intro c c'
  have hcycles := cycles_eq_nil_of_kinds h.kinds
  -- It is read if its name is new. Then later definitions of the name have to be looked at.
  have hkeeps : Keeps settings formats ⟨front ++ back⟩ ⟨front ++ raw :: back⟩ front.length x
      ∧ ((∀ later ∈ back, later.Defines x.typeName →
          ∃ earlier ∈ front, earlier.Defines x.typeName) →
        Widens front.length x.typeNames (problems settings formats ⟨front ++ back⟩)
          (problems settings formats ⟨front ++ raw :: back⟩)) := by
    by_cases hfront : ∃ earlier ∈ front, earlier.Defines x.typeName
    · exact (keeps_of_defined hraw hfront h).imp_right fun hproblems _ => hproblems
    · have hnew : ∀ earlier ∈ front, ¬ earlier.Defines x.typeName :=
        fun earlier hearlier hdefines => hfront ⟨earlier, hearlier, hdefines⟩
      have hkeeps := keeps_of_new hraw hnew h
      refine ⟨hkeeps, fun hlater => ?_⟩
      have hall : ∀ other ∈ front ++ back, ¬ other.Defines x.typeName :=
        List.forall_mem_append.2
          ⟨hnew, fun later hmem hdefines => hfront (hlater later hmem hdefines)⟩
      rw [← filter_problems_of_forall_ne fun d hd => typeName_ne_of_mem_readAll hall hd]
      exact hkeeps.known
  obtain ⟨hkeeps, hproblems⟩ := hkeeps
  refine ⟨hkeeps.agreesApart, ?_, ?_, fun hlater => ?_⟩
  · rw [warnings_ofStore, warnings_ofStore]
    exact hkeeps.read.filter_severity .warning
  · rw [errors_of_cycles hcycles, errors_of_cycles hkeeps.cycles, List.filter_comm]
    refine Widens.filter_severity ?_ .error
    unfold found
    rw [List.filter_append,
      filter_not_isUnknownIn fun y hy => isUnknownIn_of_mem_readAll hy x.typeName]
    exact hkeeps.read.append hkeeps.known
  · rw [errors_of_cycles hcycles, errors_of_cycles hkeeps.cycles]
    exact (hkeeps.read.append (hproblems hlater)).filter_severity .error

/-- A record of a flag, with a variant. -/
def rawCrew : RawDefinition := ⟨none, .object
  [("kind", .string "record"), ("system", .string "test"), ("name", .string "crew"),
    ("properties", .array [.object [("name", .string "ready"), ("propertyType", .string "flag")]]),
    ("variants", .array [.object [("name", .string "short"), ("includeProperties", .array [])]]),
    ("validTestCases", .array [])]⟩

/-- The definition of the record. -/
def crew : Definition := rawCrew.definition?.get (by decide +kernel)

/-- The crew is read. -/
theorem definition?_rawCrew : rawCrew.definition? = some crew := (Option.some_get _).symm

/-- Nothing in the store with the flag refers to the record. -/
theorem unreferenced_crew : (ofStore .standard [] flagStore).Unreferenced crew := by
  have hdocuments : ∀ d ∈ resolved .standard [] flagStore,
      ∀ document ∈ (Emitter.ofDomain Settings.standard.domain).documentsOf d,
        document.typeName ∉ crew.typeNames := by
    decide +kernel
  have hreferences : ∀ d ∈ (ofStore .standard [] flagStore).definitions, ∀ t ∈ d.references,
      t ∉ crew.typeNames := by
    decide +kernel
  refine ⟨by decide +kernel, by decide +kernel, ?_, ?_, ?_⟩
  · exact fun d hd hmem => hreferences d hd _ hmem List.mem_cons_self
  · intro document hdocument
    obtain ⟨d, hd, hmem⟩ := mem_documents.1 hdocument
    exact hdocuments d hd document hmem
  · exact fun d hd t ht hmem => absurd (List.mem_cons_of_mem _ hmem) (hreferences d hd t ht)

/-- The record may be put behind the flag. -/
theorem ofStore_unreferenced_crew : ∃ flag user, flagStore.entries = [flag, user]
    ∧ rawCrew.definition? = some crew ∧ crew.typeNames = ["test/crew", "test/crewShort"]
    ∧ (ofStore .standard [] ⟨[flag] ++ [user]⟩).Unreferenced crew
    ∧ (∀ later ∈ [user], later.Defines crew.typeName →
      ∃ earlier ∈ [flag], earlier.Defines crew.typeName)
    ∧ AgreesApart crew.typeNames (ofStore .standard [] ⟨[flag] ++ [user]⟩)
      (ofStore .standard [] ⟨[flag] ++ rawCrew :: [user]⟩)
    ∧ Widens 1 crew.typeNames (ofStore .standard [] ⟨[flag] ++ [user]⟩).report.errors
      (ofStore .standard [] ⟨[flag] ++ rawCrew :: [user]⟩).report.errors := by
  have hlater : ∀ later ∈ [flagStore.entries[1]!], later.Defines crew.typeName →
      ∃ earlier ∈ [flagStore.entries[0]!], earlier.Defines crew.typeName := by
    have hnot : ((flagStore.entries[1]!).definition?.all
        fun d => d.typeName ≠ crew.typeName) = true := by decide +kernel
    rintro later hlater ⟨d, hd, hname⟩
    rw [← List.mem_singleton.1 hlater, hd] at hnot
    exact absurd hname (of_decide_eq_true hnot)
  obtain ⟨hagrees, -, -, herrors⟩ := ofStore_unreferenced .standard []
    [flagStore.entries[0]!] [flagStore.entries[1]!] rawCrew crew definition?_rawCrew
    unreferenced_crew
  exact ⟨_, _, rfl, definition?_rawCrew, by decide +kernel, unreferenced_crew, hlater, hagrees,
    herrors hlater⟩

/-- A record of something unknown. -/
def strayUser : RawDefinition := ⟨none, .object
  [("kind", .string "record"), ("system", .string "test"), ("name", .string "user"),
    ("properties", .array [.object [("name", .string "team"), ("propertyType", .string "team")]]),
    ("validTestCases", .array [])]⟩

/-- A flag of the same name. -/
def rawUserFlag : RawDefinition := ⟨none, .object
  [("kind", .string "bool"), ("system", .string "test"), ("name", .string "user"),
    ("validTestCases", .array [])]⟩

/-- The definition of the flag. -/
def userFlag : Definition := rawUserFlag.definition?.get (by decide +kernel)

/-- The record has no document, and the flag may be put in front of it. But then the record is left
out for its name, and nobody is told any more that it refers to something unknown. -/
theorem not_widens_strayUser : rawUserFlag.definition? = some userFlag
    ∧ (ofStore .standard [] ⟨[] ++ [strayUser]⟩).Unreferenced userFlag
    ∧ (ofStore .standard [] ⟨[] ++ rawUserFlag :: [strayUser]⟩).documents.map (·.typeName)
      = userFlag.typeNames
    ∧ ¬ Widens 0 userFlag.typeNames (ofStore .standard [] ⟨[] ++ [strayUser]⟩).report.errors
      (ofStore .standard [] ⟨[] ++ rawUserFlag :: [strayUser]⟩).report.errors := by
  -- The batch of the record alone emits nothing, so nothing in it refers to the flag.
  have hnone : ∀ d ∈ resolved .standard [] ⟨[strayUser]⟩, False := by decide +kernel
  have h : (ofStore .standard [] ⟨[strayUser]⟩).Unreferenced userFlag := by
    refine ⟨by decide +kernel, by decide +kernel, by decide +kernel, ?_, ?_⟩
    · intro document hdocument
      obtain ⟨d, hd, -⟩ := mem_documents.1 hdocument
      exact (hnone d hd).elim
    · intro d _ t _ _ document hdocument
      obtain ⟨d, hd, -⟩ := mem_documents.1 hdocument
      exact (hnone d hd).elim
  refine ⟨(Option.some_get _).symm, h, ?_, fun hwidens => ?_⟩
  · have hnames : ((resolved .standard [] ⟨[rawUserFlag, strayUser]⟩).flatMap
        (Emitter.ofDomain Settings.standard.domain).documentsOf).map (·.typeName)
        = [userFlag.typeName] := by decide +kernel
    have hperm := (@documents_perm_resolved .standard [] ⟨[rawUserFlag, strayUser]⟩).map
      (·.typeName)
    rw [hnames] at hperm
    exact List.perm_singleton.1 hperm
  · have hcycles : (ofStore .standard [] ⟨[strayUser]⟩).typeMap.cycles = [] :=
      cycles_eq_nil_of_kinds h.kinds
    have hcycles' : (ofStore .standard [] ⟨[rawUserFlag, strayUser]⟩).typeMap.cycles = [] :=
      cycles_eq_nil_of_kinds (by decide +kernel)
    have hunknown : ∃ y ∈ (unresolvedOf (emitAll (.ofDomain Settings.standard.domain)
        (ofStore .standard [] ⟨[strayUser]⟩).definitions)).filter (·.severity = .error),
        y.isUnknownIn "test/user" = true := by
      decide +kernel
    have hnothing : unresolvedOf (emitAll (.ofDomain Settings.standard.domain)
        (ofStore .standard [] ⟨[rawUserFlag, strayUser]⟩).definitions) = [] := by
      decide +kernel
    obtain ⟨y, hy, hunknown⟩ := hunknown
    have hmem : y ∈ (ofStore .standard [] ⟨[strayUser]⟩).report.errors := by
      rw [errors_of_cycles hcycles]
      unfold found problems
      rw [List.filter_append, List.filter_append]
      exact List.mem_append_right _ (List.mem_append_left _ hy)
    obtain ⟨z, hz, hchanged⟩ := hwidens.exists_of_mem hmem
    rw [List.nil_append, errors_of_cycles hcycles'] at hz
    have hlost := mem_unresolvedOf_of_isUnknownIn (List.mem_filter.1 hz).1
      (hchanged.isUnknownIn hunknown)
    rw [hnothing] at hlost
    cases hlost

end Catalog

end TypeCatalog
