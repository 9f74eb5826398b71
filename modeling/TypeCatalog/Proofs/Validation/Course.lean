import TypeCatalog.Proofs.Validation.Collected

/-!
# What a collection depends on

The documents that a schema may reach are collected from a table. A survey looks into the table at
the addresses that references lead to, and nowhere else, so two tables that agree there give the
same collection (`Registry.collect_congr`).

`Survey.Course` says which bases, references and schemas a survey may meet on its way, and
`Course.IsClosed` that it meets no others. The number of rounds goes by the length of the table,
which may be another one. It makes no difference (`run_of_le`): every round but the last two fetches
a document that was missing, and after those nothing is left to be done.

Both comparisons are inductions on the rounds of `Survey.run`. What one round does is told by
`visitAll` and `fetchAll`, so every function of the survey has a lemma that it keeps `Course.Holds`,
from `note` up to `fetch`.
-/

set_option autoImplicit false

namespace TypeCatalog

open Result

namespace Survey

/-! ## What waits -/

/-- A schema that begins to wait does so behind the others, as it is. -/
theorem waiting_of_enqueue {base : Uri} {draft : Draft} {s s' : Survey} {x : Json}
    (h : Survey.enqueue base draft s x = .ok s') : s'.registry = s.registry
      ∧ ∃ draft', draft.detect x = .ok draft'
        ∧ s'.waiting = s.waiting ++ [⟨base, ⟨draft', x⟩⟩] := by
  unfold Survey.enqueue at h
  obtain ⟨draft', hdraft, h⟩ := bind_eq_ok.1 h
  obtain ⟨entered, -, h⟩ := bind_eq_ok.1 h
  obtain ⟨noted, hnoted, h⟩ := bind_eq_ok.1 h
  cases h
  have hnotes := notes_noteAll hnoted
  refine ⟨hnotes.registry, draft', mapError_eq_ok.1 hdraft, ?_⟩
  show noted.waiting ++ _ = _
  rw [hnotes.waiting]

/-- Schemas that begin to wait add their counts to the size, and enter nothing. -/
theorem size_of_enqueueAll {base : Uri} {draft : Draft} {xs : List Json} {s s' : Survey}
    (h : xs.foldlM (Survey.enqueue base draft) s = .ok s') :
    s'.registry = s.registry ∧ s'.size = s.size + (xs.map Json.count).sum := by
  induction xs generalizing s with
  | nil =>
      cases h
      exact ⟨rfl, rfl⟩
  | cons x xs ih =>
      rw [List.foldlM_cons] at h
      obtain ⟨s₁, h₁, h⟩ := bind_eq_ok.1 h
      obtain ⟨hregistry, draft', -, hwaiting⟩ := waiting_of_enqueue h₁
      obtain ⟨hregistry', hsize⟩ := ih h
      refine ⟨hregistry'.trans hregistry, ?_⟩
      have hsize₁ : s₁.size = s.size + x.count := by
        rw [size_eq, size_eq, hwaiting, List.map_append, List.sum_append]
        rfl
      rw [hsize, hsize₁, List.map_cons, List.sum_cons, Nat.add_assoc]

/-- Going through a schema loses nothing that is known, and the schemas inside it are smaller. -/
theorem grows_of_visit {site : Site} {s s' : Survey} (h : Survey.visit s site = .ok s') :
    Grows s s' ∧ s'.size < s.size + site.resource.schema.count := by
  unfold Survey.visit at h
  dsimp only at h
  obtain ⟨base, -, h⟩ := bind_eq_ok.1 h
  obtain ⟨noted, hnoted, h⟩ := bind_eq_ok.1 h
  have hnotes := notes_noteAll hnoted
  obtain ⟨hregistry, hsize⟩ := size_of_enqueueAll h
  constructor
  · intro address hknown
    rw [hregistry, hnotes.registry]
    show ((if _ then _ else _ : Registry).resource? address).isSome
    split
    · exact s.registry.isSome_addResource hknown
    · exact hknown
  · have hwaiting : noted.size = s.size := by
      rw [size_eq, size_eq, hnotes.waiting]
    have hcount := site.resource.draft.sum_count_subschemas site.resource.schema
    rw [hsize, hwaiting]
    omega

/-- Rounds do not run out: nothing waits any more when all schemas were gone through. -/
theorem grows_of_visitAll {rounds : Nat} {s s' : Survey} (hrounds : s.size < rounds)
    (h : Survey.visitAll rounds s = .ok s') : Grows s s' ∧ s'.waiting = [] := by
  induction rounds generalizing s with
  | zero => exact absurd hrounds (Nat.not_lt_zero _)
  | succ rounds ih =>
      unfold Survey.visitAll at h
      split at h
      · next hwaiting =>
          cases h
          exact ⟨fun _ => id, hwaiting⟩
      · next site rest hwaiting =>
          obtain ⟨visited, hvisited, h⟩ := bind_eq_ok.1 h
          obtain ⟨hgrows, hsize⟩ := grows_of_visit hvisited
          have hrest : Survey.size { s with waiting := rest } + site.resource.schema.count
              = s.size := by
            rw [size_eq, size_eq, hwaiting, List.map_cons, List.sum_cons]
            exact Nat.add_comm _ _
          obtain ⟨hgrows', hidle⟩ := ih (by omega) h
          have hbegin : Grows s { s with waiting := rest } := fun _ => id
          exact ⟨(hbegin.trans hgrows).trans hgrows', hidle⟩

/-! ## Rounds -/

section

variable {documents : List (String × Json)}

/-- Fetching a document changes nothing, or brings one that was missing. -/
theorem fetches_of_fetch {u : Uri} {s s' : Survey} (h : Survey.fetch documents s u = .ok s') :
    Fetches documents s s' := by
  unfold Survey.fetch at h
  dsimp only at h
  -- The document was known, or it is entered as a resource, with the part that the reference points
  -- to if there is one.
  split at h
  · cases h
    exact ⟨rfl, .inl rfl⟩
  · next hunknown =>
      split at h
      · next schema hschema =>
          obtain ⟨draft, -, h⟩ := bind_eq_ok.1 h
          have hfetched {t : Survey} (hregistry : t.registry
              = s.registry.addResource u.document.text ⟨draft, schema⟩)
              (hpending : t.pending = s.pending) : Fetches documents s t := by
            refine ⟨hpending, .inr ?_⟩
            have hgrows : Grows s t := by
              intro address hknown
              rw [hregistry]
              exact s.registry.isSome_addResource hknown
            refine hgrows.missing_lt hschema ?_ ?_
            · exact Option.isNone_iff_eq_none.2 (Option.not_isSome_iff_eq_none.1 hunknown)
            · rw [hregistry, Registry.resource?_addResource_self]
              rfl
          split at h
          · cases h
            exact hfetched rfl rfl
          · obtain ⟨draft', -, h⟩ := bind_eq_ok.1 h
            cases h
            exact hfetched rfl rfl
      · cases h

/-- So does fetching several documents. -/
theorem fetches_of_fetchAll {us : List Uri} {s s' : Survey}
    (h : us.foldlM (Survey.fetch documents) s = .ok s') : Fetches documents s s' :=
  foldlM_preserves (fun _ _ _ _ hb hc => hb.trans (fetches_of_fetch hc)) ⟨rfl, .inl rfl⟩ h

/-- One more round makes no difference when there are more rounds than documents missing. -/
theorem run_succ {rounds : Nat} {s : Survey} (hrounds : s.missing documents < rounds) :
    Survey.run documents (rounds + 1) s = Survey.run documents rounds s := by
  induction rounds generalizing s with
  | zero => exact absurd hrounds (Nat.not_lt_zero _)
  | succ rounds ih =>
      rw [Survey.run, Survey.run]
      cases hvisited : Survey.visitAll (s.size + 1) s with
      | error f => rfl
      | ok s₁ =>
          obtain ⟨hgrows, hwaiting⟩ := grows_of_visitAll (Nat.lt_succ_self _) hvisited
          show (if _ then _ else _) = (if _ then _ else _)
          split
          · rfl
          · show (_ >>= _) = (_ >>= _)
            cases hfetched : s₁.pending.reverse.foldlM (Survey.fetch documents)
                { s₁ with pending := [] } with
            | error f => rfl
            | ok s₂ =>
                show Survey.run documents (rounds + 1) s₂ = Survey.run documents rounds s₂
                -- The round has changed nothing, and both runs are idle from there, or it has
                -- brought a document that was missing.
                rcases (fetches_of_fetchAll hfetched).progress with rfl | hfewer
                · have hidle : ({ s₁ with pending := [] } : Survey).waiting = [] := hwaiting
                  rw [run_idle hidle rfl, run_idle hidle rfl]
                · refine ih ?_
                  have hle : s₁.missing documents ≤ s.missing documents := hgrows.missing_le
                  have hlt : s₂.missing documents < s₁.missing documents := hfewer
                  omega

/-- Nor do any number of further rounds. -/
theorem run_of_le {rounds more : Nat} {s : Survey} (hrounds : s.missing documents < rounds)
    (h : rounds ≤ more) : Survey.run documents more s = Survey.run documents rounds s := by
  induction more, h using Nat.le_induction with
  | base => rfl
  | succ more hle ih => rw [run_succ (Nat.lt_of_lt_of_le hrounds hle), ih]

end

/-! ## What is met -/

/-- What a survey may meet: bases, references to documents, and schemas with their versions. -/
structure Course where
  base : Uri → Prop
  target : Uri → Prop
  schema : Draft → Json → Prop

namespace Course

/-- The keywords whose references are noted. -/
def keywords : List String := ["$ref", "$schema"]

/-- Whether what is met leads to nothing but what may be met, when documents are fetched from a
table. -/
structure IsClosed (c : Course) (documents : List (String × Json)) : Prop where
  enter : ∀ {base base' draft v}, c.base base → c.schema draft v →
    Site.enter base ⟨draft, v⟩ = .ok base' → c.base base'
  reference : ∀ {base draft v k reference u}, c.base base → c.schema draft v → k ∈ keywords →
    v.member? k = some (.string reference) → Draft.isSpecification reference = false →
    Fragment.isLocal reference = false → Site.resolve base.document reference = .ok u → c.target u
  place : ∀ {draft whole v k reference part}, c.schema draft whole → c.schema draft v →
    k ∈ keywords → v.member? k = some (.string reference) → Fragment.isLocal reference = true →
    Pointer.find? whole (reference.toList.dropWhile (· = '#')) = some part → c.schema draft part
  inside : ∀ {draft draft' v x}, c.schema draft v → x ∈ draft.subschemas v →
    draft.detect x = .ok draft' → c.schema draft' x
  document : ∀ {u v draft}, c.target u → documents.lookup u.document.text = some v →
    Draft.draft7.detect v = .ok draft → c.base u.document ∧ c.schema draft v
  fragment : ∀ {u v part draft}, c.target u → documents.lookup u.document.text = some v →
    u.fragment.bind (Pointer.find? v) = some part → Draft.draft7.detect part = .ok draft →
    c.base u ∧ c.schema draft part

/-- Whether a survey has met nothing but what it may meet. -/
structure Holds (c : Course) (s : Survey) : Prop where
  waiting : ∀ site ∈ s.waiting, c.base site.base ∧ c.schema site.resource.draft site.resource.schema
  pending : ∀ u ∈ s.pending, c.target u

end Course

section

variable {c : Course} {documents : List (String × Json)} (hclosed : c.IsClosed documents)

include hclosed

/-- Noting a reference keeps the course, if following it inside of the schema does. -/
theorem holds_note {base : Uri} {draft : Draft} {whole v : Json}
    {follow : Json → Survey → Except SchemaFault Survey} (hbase : c.base base)
    (hwhole : c.schema draft whole) (hv : c.schema draft v)
    (hfollow : ∀ part s s', c.schema draft part → c.Holds s → follow part s = .ok s' → c.Holds s')
    {k reference : String} (hk : k ∈ Course.keywords)
    (hreference : v.member? k = some (.string reference)) {s s' : Survey} (hs : c.Holds s)
    (h : Survey.note follow base whole s reference = .ok s') : c.Holds s' := by
  unfold Survey.note at h
  split at h
  · cases h
    exact hs
  · next hnew =>
      rw [Bool.not_eq_true, Bool.or_eq_false_iff] at hnew
      have hmet : c.Holds { s with met := (base.text, reference) :: s.met } :=
        ⟨hs.waiting, hs.pending⟩
      dsimp only at h
      -- A reference inside of the schema is followed at once, and any other one is pending from now
      -- on.
      split at h
      · next hlocal =>
          split at h
          · cases h
            exact hmet
          · next part hpart =>
              exact hfollow _ _ _ (hclosed.place hwhole hv hk hreference hlocal hpart) hmet h
      · next hlocal =>
          obtain ⟨u, hu, rfl⟩ := map_eq_ok.1 h
          refine ⟨hs.waiting, List.forall_mem_cons.2 ⟨?_, hs.pending⟩⟩
          exact hclosed.reference hbase hv hk hreference hnew.1
            (Bool.eq_false_of_not_eq_true hlocal)
            hu

/-- So does noting what a part refers to, and all that it leads to inside of the schema. -/
theorem holds_noteOf {base : Uri} {draft : Draft} {whole part : Json} (hbase : c.base base)
    (hwhole : c.schema draft whole) (hpart : c.schema draft part) {rounds : Nat} {s s' : Survey}
    (hs : c.Holds s) (h : Survey.noteOf base whole rounds part s = .ok s') : c.Holds s' := by
  induction rounds generalizing part s s' with
  | zero =>
      cases h
      exact hs
  | succ rounds ih =>
      unfold Survey.noteOf at h
      refine foldlM_preserves (fun reference hmem b d hb hd => ?_) hs h
      obtain ⟨k, hk, hvalue⟩ := List.mem_filterMap.1 hmem
      obtain ⟨value, hvalue, hstring⟩ := Option.bind_eq_some_iff.1 hvalue
      cases value with
      | string _ =>
          cases hstring
          exact holds_note hclosed hbase hwhole hpart
            (fun part s s' hpart hs h => ih hpart hs h) hk hvalue hb hd
      | _ => cases hstring

/-- And so does noting all references of a schema. -/
theorem holds_noteAll {base : Uri} {draft : Draft} {v : Json} (hbase : c.base base)
    (hv : c.schema draft v) {s s' : Survey} (hs : c.Holds s)
    (h : Survey.noteAll base v s = .ok s') : c.Holds s' := by
  unfold Survey.noteAll at h
  split at h
  · cases h
    exact hs
  · exact holds_noteOf hclosed hbase hv hv hs h

/-- A schema inside of another may begin to wait. -/
theorem holds_enqueue {base : Uri} {draft : Draft} {v x : Json} (hbase : c.base base)
    (hv : c.schema draft v) (hx : x ∈ draft.subschemas v) {s s' : Survey} (hs : c.Holds s)
    (h : Survey.enqueue base draft s x = .ok s') : c.Holds s' := by
  unfold Survey.enqueue at h
  obtain ⟨draft', hdraft, h⟩ := bind_eq_ok.1 h
  obtain ⟨entered, hentered, h⟩ := bind_eq_ok.1 h
  obtain ⟨noted, hnoted, h⟩ := bind_eq_ok.1 h
  cases h
  have hdetect : draft.detect x = .ok draft' := mapError_eq_ok.1 hdraft
  have hschema := hclosed.inside hv hx hdetect
  have hholds := holds_noteAll hclosed (hclosed.enter hbase hschema hentered) hschema hs hnoted
  refine ⟨?_, hholds.pending⟩
  rw [List.forall_mem_append, List.forall_mem_singleton]
  exact ⟨hholds.waiting, hbase, hschema⟩

/-- Going through a schema keeps the course. -/
theorem holds_visit {site : Site} (hbase : c.base site.base)
    (hschema : c.schema site.resource.draft site.resource.schema) {s s' : Survey} (hs : c.Holds s)
    (h : Survey.visit s site = .ok s') : c.Holds s' := by
  unfold Survey.visit at h
  dsimp only at h
  obtain ⟨base, hentered, h⟩ := bind_eq_ok.1 h
  obtain ⟨noted, hnoted, h⟩ := bind_eq_ok.1 h
  have hbase' := hclosed.enter hbase hschema hentered
  have hholds : c.Holds noted := by
    refine holds_noteAll hclosed hbase' hschema ?_ hnoted
    exact ⟨hs.waiting, hs.pending⟩
  exact foldlM_preserves
    (fun x hx b d hb hd => holds_enqueue hclosed hbase' hschema hx hb hd) hholds h

/-- So does going through all that wait. -/
theorem holds_visitAll {rounds : Nat} {s s' : Survey} (hs : c.Holds s)
    (h : Survey.visitAll rounds s = .ok s') : c.Holds s' := by
  induction rounds generalizing s with
  | zero =>
      cases h
      exact hs
  | succ rounds ih =>
      unfold Survey.visitAll at h
      split at h
      · cases h
        exact hs
      · next site rest hwaiting =>
          obtain ⟨visited, hvisited, h⟩ := bind_eq_ok.1 h
          have hall := hs.waiting
          rw [hwaiting, List.forall_mem_cons] at hall
          refine ih (holds_visit hclosed hall.1.1 hall.1.2 ?_ hvisited) h
          exact ⟨hall.2, hs.pending⟩

/-- Fetching a document keeps the course, with the part that the reference points to. -/
theorem holds_fetch {u : Uri} (hu : c.target u) {s s' : Survey} (hs : c.Holds s)
    (h : Survey.fetch documents s u = .ok s') : c.Holds s' := by
  unfold Survey.fetch at h
  dsimp only at h
  split at h
  · cases h
    exact hs
  · split at h
    · next v hv =>
        obtain ⟨draft, hdraft, h⟩ := bind_eq_ok.1 h
        have hdocument := hclosed.document hu hv (mapError_eq_ok.1 hdraft)
        have hwaiting : ∀ site ∈ s.waiting ++ [⟨u.document, ⟨draft, v⟩⟩],
            c.base site.base ∧ c.schema site.resource.draft site.resource.schema := by
          rw [List.forall_mem_append, List.forall_mem_singleton]
          exact ⟨hs.waiting, hdocument⟩
        split at h
        · cases h
          exact ⟨hwaiting, hs.pending⟩
        · next part hpart =>
            obtain ⟨draft', hdraft', h⟩ := bind_eq_ok.1 h
            cases h
            refine ⟨?_, hs.pending⟩
            rw [List.forall_mem_append, List.forall_mem_singleton]
            exact ⟨hwaiting, hclosed.fragment hu hv hpart (mapError_eq_ok.1 hdraft')⟩
    · cases h

/-! ## Two tables -/

variable {documents' : List (String × Json)} (hagree : ∀ u, c.target u →
  documents'.lookup u.document.text = documents.lookup u.document.text)

include hagree

omit hclosed in
/-- Two tables that agree on the course fetch the same documents. -/
theorem fetchAll_congr {us : List Uri} (hus : ∀ u ∈ us, c.target u) (s : Survey) :
    us.foldlM (Survey.fetch documents') s = us.foldlM (Survey.fetch documents) s := by
  induction us generalizing s with
  | nil => rfl
  | cons u us ih =>
      rw [List.forall_mem_cons] at hus
      have hfetch : Survey.fetch documents' s u = Survey.fetch documents s u := by
        unfold Survey.fetch
        dsimp only
        rw [hagree u hus.1]
      rw [List.foldlM_cons, List.foldlM_cons, hfetch]
      exact bind_congr fun s' => ih hus.2 s'

/-- With as many rounds two tables give the same where they agree at all addresses that are met. -/
theorem run_congr {rounds : Nat} {s : Survey} (hs : c.Holds s) :
    Survey.run documents' rounds s = Survey.run documents rounds s := by
  induction rounds generalizing s with
  | zero => rfl
  | succ rounds ih =>
      rw [Survey.run, Survey.run]
      cases hvisited : Survey.visitAll (s.size + 1) s with
      | error f => rfl
      | ok s₁ =>
          have hs₁ := holds_visitAll hclosed hs hvisited
          show (if _ then _ else _) = (if _ then _ else _)
          split
          · rfl
          · have hpending : ∀ u ∈ s₁.pending.reverse, c.target u :=
              fun u hu => hs₁.pending u (List.mem_reverse.1 hu)
            show (_ >>= _) = (_ >>= _)
            rw [fetchAll_congr hagree hpending]
            cases hfetched : s₁.pending.reverse.foldlM (Survey.fetch documents)
                { s₁ with pending := [] } with
            | error f => rfl
            | ok s₂ =>
                refine ih (foldlM_preserves (fun u hu b d hb hd => ?_) ?_ hfetched)
                · exact holds_fetch hclosed (hpending u hu) hb hd
                · exact ⟨hs₁.waiting, nofun⟩

end

end Survey

/-- Two tables that agree at all addresses that may be met give the same collection. -/
theorem Registry.collect_congr {c : Survey.Course} {documents documents' : List (String × Json)}
    (hclosed : c.IsClosed documents) (hagree : ∀ u, c.target u →
      documents'.lookup u.document.text = documents.lookup u.document.text)
    {resource : Resource} (hbase : ∀ base, Site.address resource = .ok base → c.base base)
    (hschema : c.schema resource.draft resource.schema) (known : Registry) :
    Registry.collect known documents' resource = Registry.collect known documents resource := by
  unfold Registry.collect
  cases haddress : Site.address resource with
  | error f => rfl
  | ok base =>
      show known.addDocument documents' base resource = known.addDocument documents base resource
      unfold Registry.addDocument
      dsimp only
      generalize hs : (⟨known.addResource base.text resource, [⟨base, resource⟩], [], []⟩ : Survey)
        = s
      have hholds : c.Holds s := by
        subst hs
        exact ⟨List.forall_mem_singleton.2 ⟨hbase base haddress, hschema⟩, nofun⟩
      have hrounds (documents : List (String × Json)) :
          s.missing documents < documents.length + 2 :=
        Nat.lt_succ_of_le ((s.missing_le_length documents).trans (Nat.le_succ _))
      -- Both take as many rounds as they like.
      rw [← Survey.run_of_le (hrounds documents') (Nat.le_max_right (documents.length + 2) _),
        ← Survey.run_of_le (hrounds documents) (Nat.le_max_left _ (documents'.length + 2)),
        Survey.run_congr hclosed hagree hholds]

end TypeCatalog
