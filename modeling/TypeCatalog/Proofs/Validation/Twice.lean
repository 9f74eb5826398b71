import TypeCatalog.Proofs.Validation.Links
import TypeCatalog.Proofs.Validation.Plain

/-!
# Reading the same twice

A schema with plain parts may be read at two bases, over different documents and with different ways
of following references. Where both readings succeed they give the same schema, but for the
references in it, and these are the ones that were followed on the way.

`Agree` says this of two readings, whatever they give. It is kept by each way of putting readings
together, so that one pass over the keywords carries it from the references to the whole.

`Reader.Agree` relates two readings by a map of their results, and asks of the result of the first
one that all of its links were followed. `Member.Agree` is the same for the readings of one member.
`agree_keyword?` goes through the keywords of the seventh version, which is the only one of plain
parts, and `agree_body` is the induction on levels.
-/

set_option autoImplicit false

namespace TypeCatalog.Reader

open Result Schema

/-- Links that are followed one list after the other are followed. -/
theorem Follows.append {follow : Target → ReadM Unit} {ls ks : List Link} {p p' q : Progress}
    (h : Follows follow ls p p') (h' : Follows follow ks p' q) : Follows follow (ls ++ ks) p q := by
  induction h with
  | nil => exact h'
  | cons hl _ ih => exact .cons hl (ih h')

/-! ## Readings that agree -/

/-- Whether the second one of two readings gives what the first one gives under a map. The first one
follows references that satisfy one condition, and where they satisfy a second one too, what it
gives satisfies a third one. -/
def Agree (follow : Target → ReadM Unit) (L P : Link → Prop) {α β : Type} (m : α → β)
    (U : α → Prop) (x : ReadM α) (y : ReadM β) : Prop :=
  ∀ ⦃p a q p' b q'⦄, x p = .ok (a, q) → y p' = .ok (b, q') →
    b = m a ∧ ∃ ls, Follows follow ls p q ∧ (∀ l ∈ ls, L l) ∧ ((∀ l ∈ ls, P l) → U a)

namespace Agree

variable {follow : Target → ReadM Unit} {L P : Link → Prop} {α β γ δ : Type} {m : α → β}
  {U : α → Prop} {x : ReadM α} {y : ReadM β}

/-- To return values that belong together agrees. -/
theorem pure {a : α} {b : β} (hb : b = m a) (ha : U a) :
    Agree follow L P m U (Pure.pure a) (Pure.pure b) := by
  intro p a' q p' b' q' hx hy
  obtain ⟨rfl, rfl⟩ := ReadM.pure_eq_ok.1 hx
  obtain ⟨rfl, rfl⟩ := ReadM.pure_eq_ok.1 hy
  exact ⟨hb, [], .nil p, nofun, fun _ => ha⟩

/-- So does to fail on one side. -/
theorem throw (fault fault' : SchemaFault) :
    Agree follow L P m U (MonadExcept.throw fault) (MonadExcept.throw fault') := nofun

/-- Steps that follow no reference agree when they give the same. -/
theorem lift {x : Except SchemaFault α} {y : Except SchemaFault β}
    (h : ∀ a b, x = .ok a → y = .ok b → b = m a ∧ U a) :
    Agree follow L P m U (liftM x) (liftM y) := by
  intro p a q p' b q' hx hy
  obtain ⟨hfirst, rfl⟩ := ReadM.lift_eq_ok.1 hx
  obtain ⟨hsecond, rfl⟩ := ReadM.lift_eq_ok.1 hy
  obtain ⟨hb, ha⟩ := h a b hfirst hsecond
  exact ⟨hb, [], .nil p, nofun, fun _ => ha⟩

/-- So does a step that reads nothing, done twice. -/
theorem lift_same (x : Except SchemaFault α) :
    Agree follow L P id (fun _ => True) (liftM x) (liftM x) :=
  .lift fun _ _ hx hy => ⟨Except.ok.inj (hy.symm.trans hx), trivial⟩

/-- One reading after another agrees with one after another. -/
theorem bind {m' : γ → δ} {U' : γ → Prop} {f : α → ReadM γ} {f' : β → ReadM δ}
    (hx : Agree follow L P m U x y)
    (hf : ∀ a, Agree follow L P m' (fun c => U a → U' c) (f a) (f' (m a))) :
    Agree follow L P m' U' (x >>= f) (y >>= f') := by
  intro p c q p' d q' h h'
  obtain ⟨a, p₁, ha, hc⟩ := ReadM.bind_eq_ok.1 h
  obtain ⟨b, p₁', hb, hd⟩ := ReadM.bind_eq_ok.1 h'
  obtain ⟨rfl, ls, hls, hL, hU⟩ := hx ha hb
  obtain ⟨hd, ks, hks, hL', hU'⟩ := hf a hc hd
  refine ⟨hd, ls ++ ks, hls.append hks, List.forall_mem_append.2 ⟨hL, hL'⟩, fun hP => ?_⟩
  rw [List.forall_mem_append] at hP
  exact hU' hP.2 (hU hP.1)

/-- The same readings agree under another map that is the same, and with a weaker condition. -/
theorem imp {m' : α → β} {U' : α → Prop} (h : Agree follow L P m U x y) (hm : ∀ a, m a = m' a)
    (hU : ∀ a, U a → U' a) : Agree follow L P m' U' x y := by
  intro p a q p' b q' hx hy
  obtain ⟨rfl, ls, hls, hL, hP⟩ := h hx hy
  exact ⟨hm a, ls, hls, hL, fun hall => hU a (hP hall)⟩

/-- So does a reading that may not be there. -/
theorem mapOption {ι ι' : Type} {f : ι → ReadM α} {f' : ι' → ReadM β} {o : Option ι}
    {o' : Option ι'} (h : (o = none ∧ o' = none)
      ∨ ∃ i i', o = some i ∧ o' = some i' ∧ Agree follow L P m U (f i) (f' i')) :
    Agree follow L P (Option.map m) (fun c => ∀ a ∈ c, U a) (o.mapM f) (o'.mapM f') := by
  rcases h with ⟨rfl, rfl⟩ | ⟨i, i', rfl, rfl, hi⟩
  · exact .pure rfl nofun
  · show Agree follow L P (Option.map m) (fun c => ∀ a ∈ c, U a) (some <$> f i) (some <$> f' i')
    rw [map_eq_pure_bind, map_eq_pure_bind]
    refine hi.bind fun a => .pure rfl fun ha b hb => ?_
    cases hb
    exact ha

/-- So does a list of readings with another one of the same length. -/
theorem mapM {ι ι' : Type} {f : ι → ReadM α} {f' : ι' → ReadM β} {xs : List ι} {ys : List ι'}
    (h : List.Forall₂ (fun i i' => Agree follow L P m U (f i) (f' i')) xs ys) :
    Agree follow L P (List.map m) (fun as => ∀ a ∈ as, U a) (xs.mapM f) (ys.mapM f') := by
  induction h with
  | nil => exact .pure rfl nofun
  | cons hi _ ih =>
      rw [List.mapM_cons, List.mapM_cons]
      refine hi.bind fun a => ih.bind fun as => .pure rfl fun has ha => ?_
      exact List.forall_mem_cons.2 ⟨ha, has⟩

/-- And so does one that leaves out the same of them. -/
theorem filterMapM {ι ι' : Type} {f : ι → ReadM (Option α)} {f' : ι' → ReadM (Option β)}
    {xs : List ι} {ys : List ι'}
    (h : List.Forall₂ (fun i i' =>
      Agree follow L P (Option.map m) (fun o => ∀ a ∈ o, U a) (f i) (f' i')) xs ys) :
    Agree follow L P (List.map m) (fun as => ∀ a ∈ as, U a) (xs.filterMapM f)
      (ys.filterMapM f') := by
  induction h with
  | nil => exact .pure rfl nofun
  | cons hi _ ih =>
      rw [List.filterMapM_cons, List.filterMapM_cons]
      refine hi.bind fun o => ?_
      cases o with
      | none => exact ih.imp (fun _ => rfl) fun as has _ => has
      | some a =>
          refine ih.bind fun as => .pure rfl fun has ha => ?_
          exact List.forall_mem_cons.2 ⟨ha a rfl, has⟩

end Agree

/-! ## Members -/

section

variable (follow : Target → ReadM Unit) (L P : Link → Prop) (g : Link → Link)

/-- Whether two readings give the same schema, but for its references, and the references of the
first one satisfy the conditions of those that are followed. -/
abbrev AgreeOnSchema (x y : ReadM Schema) : Prop :=
  Agree follow L P (mapLinks g) (fun s => s.Uses P P) x y

/-- Whether two readings of a keyword give the same, if any, but for its references. -/
abbrev AgreeOnKeyword (x y : ReadM (Option Keyword)) : Prop :=
  Agree follow L P (Option.map (mapKeywordLinks g)) (fun o => ∀ k ∈ o, KeywordUses P P k) x y

/-- Whether two members are the same with ways of reading them that agree. -/
structure Member.Agree (m m' : Member) : Prop where
  name : m'.name = m.name
  written : m'.written = m.written
  whole : AgreeOnSchema follow L P g m.whole m'.whole
  items : List.Forall₂ (AgreeOnSchema follow L P g) m.items m'.items
  named : List.Forall₂ (fun e e' => e'.1 = e.1 ∧ e'.2.1 = e.2.1
    ∧ AgreeOnSchema follow L P g e.2.2 e'.2.2) m.named m'.named

end

section

variable {follow : Target → ReadM Unit} {L P : Link → Prop} {g : Link → Link}

namespace Member.Agree

variable {m m' : Member} (h : m.Agree follow L P g m')

include h

/-- Whether a member restricts is told by its name and its value. -/
theorem isRestriction : m'.isRestriction = m.isRestriction := by
  unfold Member.isRestriction
  rw [h.written]

/-- The schemas of a list are read in agreement. -/
theorem schemas : Reader.Agree follow L P (mapListLinks g) (ListUses P P) m.schemas m'.schemas := by
  unfold Member.schemas
  rw [h.written]
  split
  · refine (Reader.Agree.mapM h.items).imp (fun ss => (mapListLinks_eq g ss).symm) fun ss hss => ?_
    exact (listUses_iff P P).2 hss
  · exact .throw _ _

/-- So are those of an object, with their names. -/
theorem readNamed {α β : Type} {f : α → β} {U : α → Prop}
    {read : String → Json → ReadM Schema → ReadM α}
    {read' : String → Json → ReadM Schema → ReadM β}
    (hread : ∀ name v whole whole', AgreeOnSchema follow L P g whole whole' →
      Reader.Agree follow L P f U (read name v whole) (read' name v whole')) :
    Reader.Agree follow L P (List.map f) (fun as => ∀ a ∈ as, U a) (m.readNamed read)
      (m'.readNamed read') := by
  unfold Member.readNamed
  rw [h.written]
  split
  · refine .mapM (h.named.imp ?_)
    rintro ⟨name, v, whole⟩ ⟨_, _, whole'⟩ ⟨rfl, rfl, hwhole⟩
    exact hread _ _ _ _ hwhole
  · exact .throw _ _

/-- In particular they are read as they are. -/
theorem namedSchemas :
    Reader.Agree follow L P (mapNamedLinks g) (NamedUses P P) m.namedSchemas m'.namedSchemas := by
  refine Reader.Agree.imp
    (h.readNamed (f := fun p => (p.1, p.2.mapLinks g)) (U := fun p => p.2.Uses P P)
      fun name v whole whole' hwhole => hwhole.bind fun s => .pure rfl id)
    (fun ps => (mapNamedLinks_eq g ps).symm) fun ps hps => (namedUses_iff P P).2 hps

/-- They are read behind patterns. -/
theorem patternSchemas : Reader.Agree follow L P (mapPatternLinks g) (PatternUses P P)
    m.patternSchemas m'.patternSchemas := by
  refine Reader.Agree.imp
    (h.readNamed (f := fun q => (q.1, q.2.mapLinks g)) (U := fun q => q.2.Uses P P)
      fun name v whole whole' hwhole => (Reader.Agree.lift_same _).bind fun r =>
        hwhole.bind fun s => .pure rfl fun hs _ => hs)
    (fun qs => (mapPatternLinks_eq g qs).symm) fun qs hqs => (patternUses_iff P P).2 hqs

/-- And they are read as dependencies. -/
theorem dependencies : Reader.Agree follow L P (mapNamedLinks g) (NamedUses P P)
    (m.readNamed dependency) (m'.readNamed dependency) := by
  refine Reader.Agree.imp
    (h.readNamed (f := fun p => (p.1, p.2.mapLinks g)) (U := fun p => p.2.Uses P P)
      fun name v whole whole' hwhole => ?_)
    (fun ps => (mapNamedLinks_eq g ps).symm) fun ps hps => (namedUses_iff P P).2 hps
  unfold dependency
  split
  · refine Reader.Agree.bind (m := mapLinks g) (U := fun s => s.Uses P P) (.lift ?_)
      fun s => .pure rfl id
    intro s s' hs hs'
    cases hs.symm.trans hs'
    obtain ⟨names, -, hs⟩ := bind_eq_ok.1 hs
    cases hs
    exact ⟨rfl, trivial, trivial⟩
  · exact hwhole.bind fun s => .pure rfl id

end Member.Agree

/-- Members that agree are found under the same names. -/
theorem agree_find? {ms ms' : List Member}
    (h : List.Forall₂ (fun m m' => m.Agree follow L P g m') ms ms') (name : String) :
    (Member.find? ms name = none ∧ Member.find? ms' name = none)
      ∨ ∃ m m', Member.find? ms name = some m ∧ Member.find? ms' name = some m'
        ∧ m.Agree follow L P g m' := by
  unfold Member.find?
  induction h with
  | nil => exact .inl ⟨rfl, rfl⟩
  | @cons m m' ms ms' hm _ ih =>
      by_cases hname : m.name = name
      · rw [List.find?_cons_of_pos (by simpa using hname),
          List.find?_cons_of_pos (by simpa [hm.name] using hname)]
        exact .inr ⟨m, m', rfl, rfl, hm⟩
      · rw [List.find?_cons_of_neg (by simpa using hname),
          List.find?_cons_of_neg (by simpa [hm.name] using hname)]
        exact ih

/-! ## Keywords -/

/-- A keyword that is made of one reading is read in agreement. -/
theorem agree_some {α β : Type} {f : α → β} {U : α → Prop} {x : ReadM α} {y : ReadM β}
    {k : α → Keyword} {k' : β → Keyword} (h : Agree follow L P f U x y)
    (hk : ∀ a, k' (f a) = mapKeywordLinks g (k a)) (hU : ∀ a, U a → KeywordUses P P (k a)) :
    AgreeOnKeyword follow L P g (do let a ← x; pure (some (k a)))
      (do let b ← y; pure (some (k' b))) := by
  refine h.bind fun a => .pure (congrArg some (hk a)) fun ha c hc => ?_
  cases hc
  exact hU a ha

/-- The keyword for the properties that are not declared and match no pattern. -/
def closing (ps : Option (List (String × Schema)))
    (qs : Option (List (Pattern.Search × Schema))) (s : Schema) : Keyword :=
  match ps, qs with
  | none, none => if s.isNothing then .noProperties else .closed [] [] s
  | _, _ => .closed (ps.getD []) (qs.getD []) s

/-- The keyword that closes an object, with other targets. -/
theorem mapKeywordLinks_closing (g : Link → Link) (ps : Option (List (String × Schema)))
    (qs : Option (List (Pattern.Search × Schema))) (s : Schema) :
    mapKeywordLinks g (closing ps qs s)
      = closing (ps.map (mapNamedLinks g)) (qs.map (mapPatternLinks g)) (s.mapLinks g) := by
  cases ps with
  | some ps => cases qs <;> rfl
  | none =>
      cases qs with
      | some qs => rfl
      | none =>
          show mapKeywordLinks g (if s.isNothing then _ else _)
            = if (s.mapLinks g).isNothing then _ else _
          rw [isNothing_mapLinks]
          split <;> rfl

/-- What that keyword uses is used by the schemas in it. -/
theorem keywordUses_closing {P : Link → Prop} {ps : Option (List (String × Schema))}
    {qs : Option (List (Pattern.Search × Schema))} {s : Schema} (hps : ∀ xs ∈ ps, NamedUses P P xs)
    (hqs : ∀ xs ∈ qs, PatternUses P P xs) (hs : s.Uses P P) :
    KeywordUses P P (closing ps qs s) := by
  cases ps with
  | some ps =>
      cases qs with
      | none => exact ⟨hps ps rfl, trivial, hs⟩
      | some qs => exact ⟨hps ps rfl, hqs qs rfl, hs⟩
  | none =>
      cases qs with
      | some qs => exact ⟨trivial, hqs qs rfl, hs⟩
      | none =>
          show KeywordUses P P (if s.isNothing then _ else _)
          split
          · trivial
          · exact ⟨trivial, trivial, hs⟩

section

variable {m m' : Member} (hm : m.Agree follow L P g m')

include hm

/-- The keyword `items` is read in agreement. -/
theorem agree_itemsKeyword? {members members' : List Member} :
    AgreeOnKeyword follow L P g (itemsKeyword? .draft7 members m)
      (itemsKeyword? .draft7 members' m') := by
  unfold itemsKeyword?
  rw [if_neg (by decide), if_neg (by decide), hm.written]
  split
  · exact agree_some hm.schemas (fun _ => rfl) fun _ => id
  · exact agree_some hm.whole (fun _ => rfl) fun _ => id
  · exact agree_some hm.whole (fun _ => rfl) fun _ => id
  · exact .pure rfl nofun

/-- So is `contains`. -/
theorem agree_containsKeyword {siblings : List (String × Json)} :
    Agree follow L P (mapKeywordLinks g) (KeywordUses P P)
      (containsKeyword .draft7 siblings m) (containsKeyword .draft7 siblings m') := by
  unfold containsKeyword
  rw [if_neg (by decide), if_neg (by decide)]
  exact hm.whole.bind fun _ => .pure rfl id

variable {members members' : List Member}
  (hmembers : List.Forall₂ (fun m m' => m.Agree follow L P g m') members members')

include hmembers

/-- So is `additionalItems`. -/
theorem agree_additionalItems? :
    AgreeOnKeyword follow L P g (additionalItems? members m) (additionalItems? members' m') := by
  have hitems : (Member.find? members' "items").map (·.written)
      = (Member.find? members "items").map (·.written) := by
    rcases agree_find? hmembers "items" with ⟨hnone, hnone'⟩ | ⟨x, x', hx, hx', hagree⟩
    · rw [hnone, hnone']
    · rw [hx, hx', Option.map_some, Option.map_some, hagree.written]
  unfold additionalItems?
  dsimp only
  rw [hitems, hm.isRestriction, hm.written]
  split
  · exact .pure rfl nofun
  · exact .pure rfl nofun
  · exact .pure rfl nofun
  · split
    · exact agree_some hm.whole (fun _ => rfl) fun _ => id
    · refine .pure rfl fun k hk => ?_
      cases hk
      trivial
  · exact .throw _ _

/-- So is `if`, with `then` and `else` beside it. -/
theorem agree_conditional? :
    AgreeOnKeyword follow L P g (conditional? members m) (conditional? members' m') := by
  have hbranch (name : String) : AgreeOnSchema follow L P g
      ((Member.find? members name).elim (pure (.boolean true)) (·.whole))
      ((Member.find? members' name).elim (pure (.boolean true)) (·.whole)) := by
    rcases agree_find? hmembers name with ⟨hnone, hnone'⟩ | ⟨x, x', hx, hx', hagree⟩
    · rw [hnone, hnone']
      exact .pure rfl trivial
    · rw [hx, hx']
      exact hagree.whole
  -- Where a branch is not there, what stands in its place lets all values pass.
  have hthree : AgreeOnKeyword follow L P g
      (do
        let c ← m.whole
        let t ← (Member.find? members "then").elim (pure (.boolean true)) (·.whole)
        let e ← (Member.find? members "else").elim (pure (.boolean true)) (·.whole)
        pure (some (.conditional c t e)))
      (do
        let c ← m'.whole
        let t ← (Member.find? members' "then").elim (pure (.boolean true)) (·.whole)
        let e ← (Member.find? members' "else").elim (pure (.boolean true)) (·.whole)
        pure (some (.conditional c t e))) := by
    refine hm.whole.bind fun c => (hbranch "then").bind fun t => (hbranch "else").bind fun e =>
      .pure rfl fun he ht hc k hk => ?_
    cases hk
    exact ⟨hc, ht, he⟩
  unfold conditional?
  dsimp only
  rcases agree_find? hmembers "then" with ⟨ht, ht'⟩ | ⟨t, t', ht, ht', -⟩
  · rcases agree_find? hmembers "else" with ⟨he, he'⟩ | ⟨e, e', he, he', -⟩
    · rw [ht, ht', he, he']
      exact .pure rfl nofun
    · rw [ht, ht', he, he'] at hthree ⊢
      exact hthree
  · rcases agree_find? hmembers "else" with ⟨he, he'⟩ | ⟨e, e', he, he', -⟩
    · rw [ht, ht', he, he'] at hthree ⊢
      exact hthree
    · rw [ht, ht', he, he'] at hthree ⊢
      exact hthree

/-- So is `additionalProperties`, with `properties` and `patternProperties` beside it. -/
theorem agree_additionalProperties :
    Agree follow L P (mapKeywordLinks g) (KeywordUses P P) (additionalProperties members m)
      (additionalProperties members' m') := by
  have hdeclared : Agree follow L P (Option.map (mapNamedLinks g))
      (fun o => ∀ ps ∈ o, NamedUses P P ps)
      ((Member.find? members "properties").mapM fun p =>
        if p.written.isObject then p.namedSchemas else throw .unexpectedType)
      ((Member.find? members' "properties").mapM fun p =>
        if p.written.isObject then p.namedSchemas else throw .unexpectedType) := by
    refine .mapOption ((agree_find? hmembers "properties").imp_right ?_)
    rintro ⟨x, x', hx, hx', hagree⟩
    refine ⟨x, x', hx, hx', ?_⟩
    rw [hagree.written]
    split
    · exact hagree.namedSchemas
    · exact .throw _ _
  have hpatterns : Agree follow L P (Option.map (mapPatternLinks g))
      (fun o => ∀ qs ∈ o, PatternUses P P qs)
      ((Member.find? members "patternProperties").mapM (·.patternSchemas))
      ((Member.find? members' "patternProperties").mapM (·.patternSchemas)) := by
    refine .mapOption ((agree_find? hmembers "patternProperties").imp_right ?_)
    rintro ⟨x, x', hx, hx', hagree⟩
    exact ⟨x, x', hx, hx', hagree.patternSchemas⟩
  have hall : Agree follow L P (mapKeywordLinks g) (KeywordUses P P)
      (do
        let qs ← (Member.find? members "patternProperties").mapM (·.patternSchemas)
        let ps ← (Member.find? members "properties").mapM fun p =>
          if p.written.isObject then p.namedSchemas else throw .unexpectedType
        let s ← m.whole
        pure (closing ps qs s))
      (do
        let qs ← (Member.find? members' "patternProperties").mapM (·.patternSchemas)
        let ps ← (Member.find? members' "properties").mapM fun p =>
          if p.written.isObject then p.namedSchemas else throw .unexpectedType
        let s ← m'.whole
        pure (closing ps qs s)) :=
    hpatterns.bind fun qs => hdeclared.bind fun ps => hm.whole.bind fun s =>
      .pure (mapKeywordLinks_closing g ps qs s).symm fun hs hps hqs =>
        keywordUses_closing hps hqs hs
  -- Whether there is something to read is told by what is written, and that is the same twice.
  unfold additionalProperties
  rcases agree_find? hmembers "patternProperties" with ⟨hq, hq'⟩ | ⟨q, q', hq, hq', hagree⟩
  · rw [hq, hq'] at hall ⊢
    dsimp only
    rw [hm.written]
    split
    · exact .pure rfl trivial
    · exact hall
  · rw [hq, hq'] at hall ⊢
    dsimp only
    rw [hm.written, hagree.written]
    split
    · split
      · exact .pure rfl trivial
      · exact hall
    · exact .throw _ _

end

/-! ## Schemas -/

section

variable {registry registry' : Registry} {formats : List Format} {checksFormats : Bool}
  {follow' : Target → ReadM Unit} {base base' : Uri} {vocabularies : List Vocabulary}
  {refers : String → Prop}

/-- Whether a keyword is none for what no other keyword looks at. -/
def looksItself : Keyword → Bool
  | .unevaluatedProperties .. | .unevaluatedItems .. => false
  | _ => true

/-- A keyword that knows the others, if it is one for what these do not look at. -/
def knowing (others : List Keyword) : Keyword → Keyword
  | .unevaluatedProperties _ s => .unevaluatedProperties others s
  | .unevaluatedItems _ s => .unevaluatedItems others s
  | k => k

/-- Keywords get to know those beside them that look at the value themselves. -/
theorem withSiblings_eq (ks : List Keyword) :
    withSiblings ks = ks.map (knowing (ks.filter looksItself)) := rfl

/-- Other targets make no difference to that. -/
theorem mapKeywordListLinks_withSiblings (g : Link → Link) (ks : List Keyword) :
    mapKeywordListLinks g (withSiblings ks) = withSiblings (ks.map (mapKeywordLinks g)) := by
  have hlooks : looksItself ∘ mapKeywordLinks g = looksItself := by
    funext k
    cases k <;> rfl
  rw [withSiblings_eq, withSiblings_eq, mapKeywordListLinks_eq, List.map_map, List.map_map,
    List.filter_map, hlooks, ← mapKeywordListLinks_eq]
  refine List.map_congr_left fun k _ => ?_
  cases k <;> rfl

/-- And the same links are used. -/
theorem keywordListUses_withSiblings {ks : List Keyword} (h : KeywordListUses P P ks) :
    KeywordListUses P P (withSiblings ks) := by
  rw [keywordListUses_iff] at h ⊢
  have hothers : KeywordListUses P P (ks.filter looksItself) :=
    (keywordListUses_iff P P).2 fun k hk => h k (List.mem_of_mem_filter hk)
  rw [withSiblings_eq, List.forall_mem_map]
  intro k hk
  have hk := h k hk
  cases k with
  | unevaluatedProperties siblings s => exact ⟨hothers, hk.2⟩
  | unevaluatedItems siblings s => exact ⟨hothers, hk.2⟩
  | _ => exact hk

/-- Reading a text that refers at two bases, with ways of reading it that agree. -/
theorem agree_reference {v : Json}
    (hlink : ∀ s, v = .string s → ∀ l l', link ⟨registry, formats, checksFormats⟩ base s = .ok l →
      link ⟨registry', formats, checksFormats⟩ base' s = .ok l' → l' = g l ∧ L l) :
    Agree follow L P (mapKeywordLinks g) (KeywordUses P P)
      (reference ⟨registry, formats, checksFormats⟩ follow base v)
      (reference ⟨registry', formats, checksFormats⟩ follow' base' v) := by
  cases v with
  | string s =>
      intro p k q p' k' q' h h'
      obtain ⟨l, p₁, hstep, h⟩ := ReadM.bind_eq_ok.1 h
      obtain ⟨l', p₁', hstep', h'⟩ := ReadM.bind_eq_ok.1 h'
      obtain ⟨hl, rfl⟩ := ReadM.lift_eq_ok.1 hstep
      obtain ⟨hl', rfl⟩ := ReadM.lift_eq_ok.1 hstep'
      obtain ⟨_, p₂, hfollow, h⟩ := ReadM.bind_eq_ok.1 h
      obtain ⟨_, p₂', -, h'⟩ := ReadM.bind_eq_ok.1 h'
      obtain ⟨rfl, rfl⟩ := ReadM.pure_eq_ok.1 h
      obtain ⟨rfl, rfl⟩ := ReadM.pure_eq_ok.1 h'
      obtain ⟨rfl, hL⟩ := hlink s rfl l l' hl hl'
      refine ⟨rfl, [l], .cons hfollow (.nil p₂), List.forall_mem_singleton.2 hL, fun hP => ?_⟩
      exact hP l (List.mem_singleton.2 rfl)
  | _ => exact .throw _ _

/-- Reading a keyword agrees with reading it over other documents, where the schemas that the
keyword and those beside it hold are read in agreement. -/
theorem agree_keyword? {siblings : List (String × Json)} {members members' : List Member}
    (hmembers : List.Forall₂ (fun m m' => m.Agree follow L P g m') members members')
    {m m' : Member} (hm : m.Agree follow L P g m') (hname : m.name ≠ "$ref")
    (hknown : Draft.draft7.knows vocabularies m.name = true) :
    AgreeOnKeyword follow L P g
      (keyword? ⟨registry, formats, checksFormats⟩ follow ⟨base, .draft7, vocabularies⟩ siblings
        members m)
      (keyword? ⟨registry', formats, checksFormats⟩ follow' ⟨base', .draft7, vocabularies⟩ siblings
        members' m') := by
  have htaken : (Member.find? members' "additionalProperties").any (·.isRestriction)
      = (Member.find? members "additionalProperties").any (·.isRestriction) := by
    rcases agree_find? hmembers "additionalProperties" with ⟨hx, hx'⟩ | ⟨x, x', hx, hx', hagree⟩
    · rw [hx, hx']
    · rw [hx, hx', Option.any_some, Option.any_some, hagree.isRestriction]
  have hunknown {name : String} (h : m.name = name)
      (hnot : Draft.draft7.knows vocabularies name = false) : False := by
    rw [h, hnot] at hknown
    cases hknown
  unfold keyword?
  dsimp only
  -- The cases are the keywords, in the order of the definition.
  rw [htaken, hm.name]
  split
  -- A reference is none of these keywords, and those of other versions are not known.
  case h_1 h => exact absurd h hname
  case h_2 h | h_3 h | h_16 h | h_17 h | h_19 h | h_22 h | h_23 h => exact (hunknown h rfl).elim
  case h_4 | h_5 | h_6 => exact agree_some hm.schemas (fun _ => rfl) fun _ => id
  case h_7 =>
    rw [hm.written]
    exact agree_some hm.whole (fun _ => rfl) fun _ => id
  case h_8 => exact agree_conditional? hm hmembers
  case h_9 | h_10 => exact .pure rfl nofun
  case h_11 =>
    split
    · exact .pure rfl nofun
    · exact agree_some hm.namedSchemas (fun _ => rfl) fun _ => id
  case h_12 =>
    split
    · exact .pure rfl nofun
    · exact agree_some hm.patternSchemas (fun _ => rfl) fun _ => id
  case h_13 => exact agree_some (agree_additionalProperties hm hmembers) (fun _ => rfl) fun _ => id
  case h_14 =>
    rw [hm.isRestriction]
    split
    · exact agree_some hm.whole (fun _ => rfl) fun _ => id
    · exact .pure rfl nofun
  case h_15 => exact agree_some hm.dependencies (fun _ => rfl) fun _ => id
  case h_18 => exact agree_itemsKeyword? hm
  case h_20 => exact agree_additionalItems? hm hmembers
  case h_21 => exact agree_some (agree_containsKeyword hm) (fun _ => rfl) fun _ => id
  case h_24 =>
    rw [hm.written]
    refine (Agree.lift_same _).bind fun c => .pure ?_ fun _ k hk => ?_
    · cases c <;> rfl
    · cases c with
      | none => cases hk
      | some c =>
          cases hk
          trivial

variable (hlink : ∀ s, refers s → ∀ l l',
  link ⟨registry, formats, checksFormats⟩ base s = .ok l →
    link ⟨registry', formats, checksFormats⟩ base' s = .ok l' → l' = g l ∧ L l)

include hlink

/-- The members of an object are read in agreement. Where there is a `$ref` among them, it alone is
read. -/
theorem agree_members {siblings : List (String × Json)} {ms ms' : List Member}
    (hms : List.Forall₂ (fun m m' => m.Agree follow L P g m') ms ms')
    (hrefers : ∀ m ∈ Member.find? ms "$ref", ∀ s, m.written = .string s → refers s) :
    AgreeOnSchema follow L P g
      (members ⟨registry, formats, checksFormats⟩ follow ⟨base, .draft7, vocabularies⟩ siblings ms)
      (members ⟨registry', formats, checksFormats⟩ follow' ⟨base', .draft7, vocabularies⟩ siblings
        ms') := by
  rcases agree_find? hms "$ref" with ⟨href, href'⟩ | ⟨m, m', href, href', hm⟩
  · unfold members
    rw [href, href']
    -- Both sides know the same keywords, since they have the same names.
    have hknown : List.Forall₂ (fun m m' => m.Agree follow L P g m' ∧ m ∈ ms
          ∧ Draft.draft7.knows vocabularies m.name = true)
        (ms.filter fun m => Draft.draft7.knows vocabularies m.name)
        (ms'.filter fun m => Draft.draft7.knows vocabularies m.name) := by
      clear href href' hrefers
      induction hms with
      | nil => exact .nil
      | @cons m m' ms ms' hm _ ih =>
          rw [List.filter_cons, List.filter_cons, hm.name]
          split
          · next hknows =>
              refine .cons ⟨hm, .head _, hknows⟩ (ih.imp fun _ _ h => ?_)
              exact ⟨h.1, .tail _ h.2.1, h.2.2⟩
          · exact ih.imp fun _ _ h => ⟨h.1, .tail _ h.2.1, h.2.2⟩
    refine (Agree.filterMapM (m := mapKeywordLinks g) (U := KeywordUses P P)
      (hknown.imp fun m m' h => ?_)).bind fun ks => .pure ?_ fun hks => ?_
    · refine agree_keyword? hms h.1 (fun hname => ?_) h.2.2
      have hnone := List.find?_eq_none.1 href m h.2.1
      exact hnone (decide_eq_true hname)
    · show Schema.keywords _ = .keywords (mapKeywordListLinks g _)
      rw [mapKeywordListLinks_withSiblings]
    · exact keywordListUses_withSiblings ((keywordListUses_iff P P).2 hks)
  · -- A reference hides all that stands beside it.
    unfold members
    rw [href, href']
    have hreference : Agree follow L P (mapKeywordLinks g) (KeywordUses P P)
        (reference ⟨registry, formats, checksFormats⟩ follow base m.written)
        (reference ⟨registry', formats, checksFormats⟩ follow' base' m'.written) := by
      rw [hm.written]
      exact agree_reference fun s hs => hlink s (hrefers m href s hs)
    refine hreference.bind fun k => .pure rfl ?_
    exact fun hk => ⟨hk, trivial⟩

/-- A schema with plain parts is read at two bases as the same, but for its references. -/
theorem agree_body (v : Json) (hv : v.HasPlainParts refers) :
    AgreeOnSchema follow L P g
      (body ⟨registry, formats, checksFormats⟩ follow ⟨base, .draft7, vocabularies⟩ v)
      (body ⟨registry', formats, checksFormats⟩ follow' ⟨base', .draft7, vocabularies⟩ v) := by
  induction hlevels : v.levels using Nat.strong_induction_on generalizing v with
  | _ levels ih =>
      -- The schemas that the members of an object hold are plain, and have fewer levels.
      have hinside {x : Json} (hplain : x.IsPlain refers) (hx : x.levels < v.levels) :
          AgreeOnSchema follow L P g
            (inside ⟨registry, formats, checksFormats⟩ follow ⟨base, .draft7, vocabularies⟩ x)
            (inside ⟨registry', formats, checksFormats⟩ follow' ⟨base', .draft7, vocabularies⟩
              x) := by
        unfold inside
        rw [Place.inside_of_isPlain hplain rfl, Place.inside_of_isPlain hplain rfl]
        exact ih x.levels (hlevels ▸ hx) x hplain.hasPlainParts rfl
      cases v with
      | object ms =>
          unfold body
          rw [memberList_eq, memberList_eq]
          refine agree_members hlink ?_ fun member hmember s hs => ?_
          · rw [List.forall₂_map_left_iff, List.forall₂_map_right_iff]
            refine List.forall₂_same.2 fun m hm => ?_
            have hlt := Json.levels_lt_of_mem_members hm
            have hplain : m.2.IsPlain refers := hv.children _ (List.mem_map_of_mem hm)
            refine ⟨rfl, rfl, hinside hplain hlt, ?_, ?_⟩
            · show List.Forall₂ _ (itemsInside _ follow _ m.2) (itemsInside _ follow' _ m.2)
              cases hvalue : m.2 with
              | array xs =>
                  rw [hvalue] at hplain hlt
                  rw [itemsInside_array, itemsInside_array, List.forall₂_map_left_iff,
                    List.forall₂_map_right_iff]
                  exact List.forall₂_same.2 fun x hx =>
                    hinside (hplain.child hx) ((Json.levels_lt_of_mem_items hx).trans hlt)
              | _ => exact .nil
            · show List.Forall₂ _ (namedInside _ follow _ m.2) (namedInside _ follow' _ m.2)
              cases hvalue : m.2 with
              | object ns =>
                  rw [hvalue] at hplain hlt
                  rw [namedInside_object, namedInside_object, List.forall₂_map_left_iff,
                    List.forall₂_map_right_iff]
                  exact List.forall₂_same.2 fun n hn => ⟨rfl, rfl,
                    hinside (hplain.child (List.mem_map_of_mem hn))
                      ((Json.levels_lt_of_mem_members hn).trans hlt)⟩
              | _ => exact .nil
          · rw [find?_memberOf] at hmember
            obtain ⟨m, hm, rfl⟩ := Option.map_eq_some_iff.1 hmember
            refine hv.reference ms rfl s ?_
            unfold Json.text?
            rw [Table.lookup_eq_map_find?, hm, Option.map_some, Option.bind_some]
            have hwritten : m.2 = .string s := hs
            rw [hwritten, Json.string?]
      | bool b => exact .pure rfl trivial
      | _ => exact .throw _ _

end

end

end TypeCatalog.Reader
