import TypeCatalog.Proofs.Validation.Reading
import TypeCatalog.Proofs.Validation.Verdict

/-!
# What stands in the table of a validator

A validator has a table of the schemas that its references lead to. Whatever it was read from, each
schema in the table is one that was read at its target (`Reader.IsReadAt`).

Reading adds to the table by following references alone. So what following a reference keeps is kept
by reading a schema with any keywords, by induction on the levels of its text.

`Reader.Preserves` says that a reading keeps a condition on the `Progress`, and each step of `ReadM`
has a lemma for it. `Member` holds the readings that a keyword may use, and `preserves_keyword?`
goes through the keywords of `Reader.keyword?` one by one, so that `preserves_body` needs no more
than the induction. `readCandidates` and `complete` are the rounds that read what recursive
references may lead to.
-/

set_option autoImplicit false

namespace TypeCatalog

open Result

namespace Reader

/-! ## Readings that keep what is known -/

/-- Whether a reading keeps something that is known of what has been read. -/
def Preserves (I : Progress → Prop) {α : Type} (x : ReadM α) : Prop :=
  ∀ p a q, I p → x p = .ok (a, q) → I q

namespace Preserves

variable {I : Progress → Prop} {α β : Type}

/-- To return a value keeps everything. -/
theorem pure (a : α) : Preserves I (Pure.pure a : ReadM α) := by
  intro p b q hp h
  obtain ⟨-, rfl⟩ := ReadM.pure_eq_ok.1 h
  exact hp

/-- So does to fail, as nothing is given. -/
theorem throw (fault : SchemaFault) : Preserves I (MonadExcept.throw fault : ReadM α) := nofun

/-- So does a step that reads nothing. -/
theorem lift (x : Except SchemaFault α) : Preserves I (liftM x : ReadM α) := by
  intro p a q hp h
  obtain ⟨-, rfl⟩ := ReadM.lift_eq_ok.1 h
  exact hp

/-- One reading after another keeps what both keep. -/
theorem bind {x : ReadM α} {f : α → ReadM β} (hx : Preserves I x) (hf : ∀ a, Preserves I (f a)) :
    Preserves I (x >>= f) := by
  intro p b q hp h
  obtain ⟨a, p', ha, hb⟩ := ReadM.bind_eq_ok.1 h
  exact hf a p' b q (hx p a p' hp ha) hb

/-- A result may be mapped. -/
theorem map {x : ReadM α} (f : α → β) (hx : Preserves I x) : Preserves I (f <$> x) := by
  rw [map_eq_pure_bind]
  exact hx.bind fun a => .pure (f a)

/-- A list of readings keeps what each of them keeps. -/
theorem mapM {f : α → ReadM β} {xs : List α} (h : ∀ x ∈ xs, Preserves I (f x)) :
    Preserves I (xs.mapM f) := by
  induction xs with
  | nil => exact .pure []
  | cons x xs ih =>
      rw [List.forall_mem_cons] at h
      rw [List.mapM_cons]
      exact h.1.bind fun y => (ih h.2).bind fun ys => .pure (y :: ys)

/-- So does a reading that may not be there. -/
theorem mapOption {f : α → ReadM β} {x : Option α} (h : ∀ a ∈ x, Preserves I (f a)) :
    Preserves I (x.mapM f) := by
  cases x with
  | none => exact .pure none
  | some a => exact (h a rfl).map some

/-- And so does a list of readings that leaves some out. -/
theorem filterMapM {f : α → ReadM (Option β)} {xs : List α} (h : ∀ x ∈ xs, Preserves I (f x)) :
    Preserves I (xs.filterMapM f) := by
  induction xs with
  | nil => exact .pure []
  | cons x xs ih =>
      rw [List.forall_mem_cons] at h
      rw [List.filterMapM_cons]
      refine h.1.bind fun y => ?_
      cases y with
      | none => exact ih h.2
      | some y => exact (ih h.2).bind fun ys => .pure (y :: ys)

end Preserves

variable {r : Reader} {follow : Target → ReadM Unit} {I : Progress → Prop}

/-! ## Members -/

/-- Whether all ways of reading a member keep something. -/
structure Member.Preserves (I : Progress → Prop) (m : Member) : Prop where
  whole : Reader.Preserves I m.whole
  items : ∀ x ∈ m.items, Reader.Preserves I x
  named : ∀ entry ∈ m.named, Reader.Preserves I entry.2.2

namespace Member.Preserves

variable {m : Member} (h : m.Preserves I)

include h

/-- The schemas of a list are read. -/
theorem schemas : Reader.Preserves I m.schemas := by
  unfold Member.schemas
  split
  · exact .mapM h.items
  · exact .throw _

/-- The schemas of an object are read with their names, whatever is made of them. -/
theorem readNamed {α : Type} {read : String → Json → ReadM Schema → ReadM α}
    (hread : ∀ name v whole, Reader.Preserves I whole → Reader.Preserves I (read name v whole)) :
    Reader.Preserves I (m.readNamed read) := by
  unfold Member.readNamed
  split
  · exact .mapM fun entry hentry => hread _ _ _ (h.named entry hentry)
  · exact .throw _

/-- In particular they are read as they are. -/
theorem namedSchemas : Reader.Preserves I m.namedSchemas :=
  h.readNamed fun _ _ _ hwhole => hwhole.bind fun _ => .pure _

/-- They are read behind patterns. -/
theorem patternSchemas : Reader.Preserves I m.patternSchemas :=
  h.readNamed fun _ _ _ hwhole => .bind (.lift _) fun _ => hwhole.bind fun _ => .pure _

/-- They are read as dependencies. -/
theorem dependencies : Reader.Preserves I (m.readNamed dependency) := by
  refine h.readNamed fun name v whole hwhole => ?_
  unfold dependency
  split
  · exact .bind (.lift _) fun _ => .pure _
  · exact hwhole.bind fun _ => .pure _

/-- And they are read as requirements. -/
theorem requirements : Reader.Preserves I (m.readNamed requirement) := by
  refine h.readNamed fun name v whole _ => ?_
  unfold requirement
  split
  · split
    · exact .bind (.lift _) fun _ => .pure _
    · exact .throw _
  · exact .throw _

end Member.Preserves

/-! ## Keywords -/

section

variable {m : Member} (hm : m.Preserves I)

include hm

/-- The keyword `items` reads a schema or a list of schemas. -/
theorem preserves_itemsKeyword? {draft : Draft} {members : List Member} :
    Preserves I (itemsKeyword? draft members m) := by
  unfold itemsKeyword?
  split
  · split
    · exact hm.whole.bind fun _ => .pure _
    · exact hm.whole.bind fun _ => .pure _
  · split
    · exact hm.schemas.bind fun _ => .pure _
    · exact hm.whole.bind fun _ => .pure _
    · exact hm.whole.bind fun _ => .pure _
    · exact .pure _

/-- The keyword `additionalItems` reads its schema. -/
theorem preserves_additionalItems? {members : List Member} :
    Preserves I (additionalItems? members m) := by
  unfold additionalItems?
  dsimp only
  split
  · exact .pure _
  · exact .pure _
  · exact .pure _
  · split
    · exact hm.whole.bind fun _ => .pure _
    · exact .pure _
  · exact .throw _

/-- The keyword `contains` reads its schema. -/
theorem preserves_containsKeyword {draft : Draft} {siblings : List (String × Json)} :
    Preserves I (containsKeyword draft siblings m) := by
  unfold containsKeyword
  split
  · exact .bind (.lift _) fun _ => .bind (.lift _) fun _ => hm.whole.bind fun _ => .pure _
  · exact hm.whole.bind fun _ => .pure _

variable {members : List Member} (hmembers : ∀ m ∈ members, m.Preserves I)

include hmembers

/-- The keyword `additionalProperties` reads its schema, and those that stand under `properties` and
`patternProperties` beside it. -/
theorem preserves_additionalProperties : Preserves I (additionalProperties members m) := by
  have hdeclared : Preserves I ((Member.find? members "properties").mapM fun p =>
      if p.written.isObject then p.namedSchemas else throw .unexpectedType) := by
    refine .mapOption fun p hp => ?_
    split
    · exact (hmembers p (List.mem_of_find?_eq_some hp)).namedSchemas
    · exact .throw _
  unfold additionalProperties
  cases hfound : Member.find? members "patternProperties" with
  | none =>
      dsimp only
      split
      · exact .pure _
      · exact .bind (.pure _) fun qs => hdeclared.bind fun ps => hm.whole.bind fun s => .pure _
  | some q =>
      have hpatterns := (hmembers q (List.mem_of_find?_eq_some hfound)).patternSchemas
      dsimp only
      split
      · split
        · exact .pure _
        · exact .bind (hpatterns.map some) fun qs => hdeclared.bind fun ps =>
            hm.whole.bind fun s => .pure _
      · exact .throw _

/-- The keyword `if` reads its schema, and those that stand under `then` and `else`. -/
theorem preserves_conditional? : Preserves I (conditional? members m) := by
  have hread (name : String) :
      Preserves I ((Member.find? members name).elim (pure (.boolean true)) (·.whole)) := by
    cases hfound : Member.find? members name with
    | none => exact .pure _
    | some branch => exact (hmembers branch (List.mem_of_find?_eq_some hfound)).whole
  have hthen := hread "then"
  have helse := hread "else"
  unfold conditional?
  dsimp only
  split
  · exact .pure _
  · exact hm.whole.bind fun _ => hthen.bind fun _ => helse.bind fun _ => .pure _

end

section

variable (hfollow : ∀ t, Preserves I (follow t)) {base : Uri} {v : Json}

include hfollow

/-- The keyword `$ref` follows its reference. -/
theorem preserves_reference : Preserves I (r.reference follow base v) := by
  unfold reference
  split
  · exact .bind (.lift _) fun _ => (hfollow _).bind fun _ => .pure _
  · exact .throw _

/-- So does `$recursiveRef`. -/
theorem preserves_recursiveReference : Preserves I (r.recursiveReference follow base v) := by
  unfold recursiveReference
  split
  · exact .bind (.lift _) fun _ => (hfollow _).bind fun _ => .pure _
  · exact .throw _

/-- Reading a keyword keeps what is kept by following references and by reading the schemas that the
keyword and those beside it hold. -/
theorem preserves_keyword? {place : Place} {siblings : List (String × Json)}
    {members : List Member} (hmembers : ∀ m ∈ members, m.Preserves I) {m : Member}
    (hm : m.Preserves I) : Preserves I (r.keyword? follow place siblings members m) := by
  have hsome {α : Type} {x : ReadM α} (hx : Preserves I x) (f : α → Keyword) :
      Preserves I (do let a ← x; pure (some (f a))) := hx.bind fun _ => .pure _
  unfold keyword?
  dsimp only
  split
  -- The cases are the keywords, in the order of the definition.
  case h_1 | h_2 => exact hsome (preserves_reference hfollow) id
  case h_3 => exact hsome (preserves_recursiveReference hfollow) id
  case h_4 | h_5 | h_6 | h_19 => exact hsome hm.schemas _
  case h_7 | h_22 | h_23 => exact hsome hm.whole _
  case h_8 => exact preserves_conditional? hm hmembers
  case h_9 | h_10 => exact .pure _
  case h_11 =>
    split
    · exact .pure _
    · exact hsome hm.namedSchemas _
  case h_12 =>
    split
    · exact .pure _
    · exact hsome hm.patternSchemas _
  case h_13 => exact hsome (preserves_additionalProperties hm hmembers) id
  case h_14 =>
    split
    · exact hsome hm.whole _
    · exact .pure _
  case h_15 => exact hsome hm.dependencies _
  case h_16 => exact hsome hm.requirements _
  case h_17 => exact hsome hm.namedSchemas _
  case h_18 => exact preserves_itemsKeyword? hm
  case h_20 => exact preserves_additionalItems? hm
  case h_21 => exact hsome (preserves_containsKeyword hm) id
  case h_24 => exact .bind (.lift _) fun _ => .pure _

/-- The members of an object keep what each of their readings keeps. -/
theorem preserves_members {place : Place} {siblings : List (String × Json)} {ms : List Member}
    (hms : ∀ m ∈ ms, m.Preserves I) : Preserves I (r.members follow place siblings ms) := by
  unfold members
  split
  · exact (preserves_reference hfollow).bind fun _ => .pure _
  · refine .bind (.filterMapM fun m hm => ?_) fun _ => .pure _
    exact preserves_keyword? hfollow hms (hms m (List.mem_of_mem_filter hm))

/-! ## Schemas -/

/-- Reading a schema keeps what following references keeps. -/
theorem preserves_body (place : Place) (v : Json) : Preserves I (body r follow place v) := by
  induction hlevels : v.levels using Nat.strong_induction_on generalizing place v with
  | _ levels ih =>
      -- All schemas that the members of an object hold have fewer levels.
      have hinside {place : Place} {x : Json} (hx : x.levels < v.levels) :
          Preserves I (inside r follow place x) :=
        .bind (.lift _) fun inner => ih x.levels (hlevels ▸ hx) inner x rfl
      cases v with
      | object ms =>
          unfold body
          rw [memberList_eq]
          refine preserves_members hfollow fun member hmember => ?_
          obtain ⟨m, hm, rfl⟩ := List.mem_map.1 hmember
          have hlt := Json.levels_lt_of_mem_members hm
          refine ⟨hinside hlt, fun reading hreading => ?_, fun entry hentry => ?_⟩
          · change reading ∈ itemsInside r follow place m.2 at hreading
            cases hv : m.2 with
            | array xs =>
                rw [hv, itemsInside_array] at hreading
                obtain ⟨x, hx, rfl⟩ := List.mem_map.1 hreading
                exact hinside ((hv ▸ Json.levels_lt_of_mem_items hx).trans hlt)
            | _ =>
                rw [hv] at hreading
                cases hreading
          · change entry ∈ namedInside r follow place m.2 at hentry
            cases hv : m.2 with
            | object ns =>
                rw [hv, namedInside_object] at hentry
                obtain ⟨n, hn, rfl⟩ := List.mem_map.1 hentry
                exact hinside ((hv ▸ Json.levels_lt_of_mem_members hn).trans hlt)
            | _ =>
                rw [hv] at hentry
                cases hentry
      | bool b => exact .pure _
      | _ => exact .throw _

end

/-! ## Tables -/

/-- Whether a schema is one that was read at a target. -/
def IsReadAt (r : Reader) (t : Target) (s : Schema) : Prop :=
  ∃ follow site p q, r.registry.site t = .ok site
    ∧ body r follow (.ofSite site) site.resource.schema p = .ok (s, q)

/-- Whether each schema of a table was read at its target. -/
def IsTable (r : Reader) (definitions : List (Target × Schema)) : Prop :=
  ∀ d ∈ definitions, r.IsReadAt d.1 d.2

/-- Following a reference enters schemas that were read at their targets. -/
theorem preserves_follow (rounds : Nat) (t : Target) :
    Preserves (fun p => r.IsTable p.definitions) (r.follow rounds t) := by
  induction rounds generalizing t with
  | zero => exact .pure ()
  | succ rounds ih =>
      intro p a q hp h
      unfold follow at h
      obtain ⟨p₁, p₂, hget, h⟩ := ReadM.bind_eq_ok.1 h
      cases hget
      split at h
      · cases h
        exact hp
      · obtain ⟨_, p₃, hmodify, h⟩ := ReadM.bind_eq_ok.1 h
        cases hmodify
        obtain ⟨site, p₄, hsite, h⟩ := ReadM.bind_eq_ok.1 h
        obtain ⟨hfound, rfl⟩ := ReadM.lift_eq_ok.1 hsite
        obtain ⟨s, p₅, hbody, h⟩ := ReadM.bind_eq_ok.1 h
        cases h
        refine List.forall_mem_cons.2 ⟨⟨_, site, _, _, hfound, hbody⟩, ?_⟩
        refine preserves_body ih _ _ _ _ _ ?_ hbody
        exact hp

/-- Reading what recursive references may lead to keeps a table one of what was read. -/
theorem isTable_readCandidates {rounds : Nat} {ls : List Link} {p : Progress}
    (hp : r.IsTable p.definitions) : r.IsTable (r.readCandidates rounds ls p).definitions := by
  unfold readCandidates
  generalize (ls.flatMap r.candidates).eraseDups = targets
  induction targets generalizing p with
  | nil => exact hp
  | cons t targets ih =>
      rw [List.foldl_cons]
      refine ih ?_
      split
      · next a q hfollow => exact preserves_follow rounds t _ _ _ hp hfollow
      · exact hp

/-- So do the rounds of it. -/
theorem isTable_complete {rounds : Nat} {ls : List Link} {n : Nat} {p : Progress}
    (hp : r.IsTable p.definitions) : r.IsTable (r.complete rounds ls n p).definitions := by
  induction n generalizing p with
  | zero => exact hp
  | succ n ih =>
      unfold complete
      dsimp only
      split
      · exact hp
      · exact ih (isTable_readCandidates hp)

/-- The schema of a validator was read from the document, and those of its table at their
targets. -/
theorem isTable_of_validator {document : Resource} {v : Validator}
    (h : r.validator document = .ok v) :
    r.IsTable v.definitions ∧ ∃ base entered follow p q, Site.address document = .ok base
      ∧ Site.enter base document = .ok entered
      ∧ body r follow ⟨entered, document.draft, document.draft.vocabulariesOf document.schema⟩
          document.schema p = .ok (v.schema, q) := by
  unfold validator at h
  obtain ⟨base, hbase, h⟩ := bind_eq_ok.1 h
  obtain ⟨entered, hentered, h⟩ := bind_eq_ok.1 h
  obtain ⟨⟨s, p⟩, hbody, h⟩ := bind_eq_ok.1 h
  cases h
  refine ⟨isTable_complete ?_, base, entered, _, _, _, hbase, hentered, hbody⟩
  refine preserves_body (preserves_follow r.rounds) _ _ _ _ _ ?_ hbody
  exact fun d hd => absurd hd List.not_mem_nil

/-- The validator of a document is the target at the address of the document. -/
theorem self_of_validator {document : Resource} {v : Validator} (h : r.validator document = .ok v)
    {base : Uri} (hbase : Site.address document = .ok base) : v.self = .within base.text "" := by
  unfold validator at h
  obtain ⟨base', hbase', h⟩ := bind_eq_ok.1 h
  cases hbase.symm.trans hbase'
  obtain ⟨entered, -, h⟩ := bind_eq_ok.1 h
  obtain ⟨⟨s, p⟩, -, h⟩ := bind_eq_ok.1 h
  cases h
  rfl

end Reader

end TypeCatalog
