import TypeCatalog.Proofs.Validation.Links

/-!
# Validators that follow alike

Two validators may have read the same documents and differ in how they came to them. A `Simulation`
gives each target of the one a target of the other, at which the same schema stands but for its
references, and these lead to targets that are given to each other again. Then following matching
references gives the same errors (`Simulation.sameAt_followHere`), whatever was gone through before.

A reference to a target that is being followed already adds nothing, and what is being followed
differs between the two. So the targets of the second validator have ranks, which fall along the
references that are followed for one place of a value: no target is met twice there.

`Validator.followHere` is the function that is compared: it takes a number of steps for one place of
a value, the targets that are open there, and the scope. `unopened` counts the targets of the table
that are not open, which bounds the steps.
-/

set_option autoImplicit false

namespace TypeCatalog

namespace Validator

/-! ## Steps -/

/-- The number of targets in the table that are not being followed. -/
def unopened (v : Validator) (opened : List Target) : Nat :=
  (v.definitions.filter fun d => decide (d.1 ∉ opened)).length

/-- No more targets are unopened than there are. -/
theorem unopened_le_length (v : Validator) (opened : List Target) :
    v.unopened opened ≤ v.definitions.length := List.length_filter_le _ _

/-- Opening a target of the table leaves fewer unopened. -/
theorem unopened_cons_lt {v : Validator} {opened : List Target} {t : Target} {s : Schema}
    (hlookup : v.definitions.lookup t = some s) (ht : t ∉ opened) :
    v.unopened (t :: opened) < v.unopened opened := by
  have hfilter : (v.definitions.filter fun d => decide (d.1 ∉ t :: opened))
      = (v.definitions.filter fun d => decide (d.1 ∉ opened)).filter fun d => decide (d.1 ≠ t) := by
    rw [List.filter_filter]
    refine List.filter_congr fun d _ => ?_
    rw [← Bool.decide_and, decide_eq_decide, List.mem_cons, not_or]
  unfold unopened
  rw [hfilter, List.length_filter_lt_length_iff_exists]
  refine ⟨(t, s), List.mem_filter.2 ⟨Table.mem_of_lookup hlookup, decide_eq_true ht⟩, ?_⟩
  simp

/-- Following a link that finds its target by itself asks the schema there. -/
theorem followHere_fixed (v : Validator) (below : Scope → Follow) (steps : Nat) (σ : Scope)
    {opened : List Target} {l : Link} {s : Schema} (hkind : l.kind = .fixed)
    (ht : l.target ∉ opened) (hlookup : v.definitions.lookup l.target = some s) :
    ∃ τ, ∀ x,
      (v.followHere below (steps + 1) opened σ).errors l x
          = s.errors (v.followHere below steps (l.target :: opened) τ) (below τ) x
        ∧ (v.followHere below (steps + 1) opened σ).looksAt l x
          = s.looksAt (v.followHere below steps (l.target :: opened) τ) (below τ) x := by
  have hdestination : l.destination v.registry σ
      = (l.target, σ.enter l.base l.target.address) := by
    unfold Link.destination
    rw [hkind]
  refine ⟨σ.enter l.base l.target.address, fun x => ?_⟩
  rw [followHere]
  dsimp only
  rw [hdestination]
  dsimp only
  rw [if_neg ht, hlookup]
  exact ⟨rfl, rfl⟩

end Validator

/-! ## Ranks -/

namespace Validator

/-- Whether ranks of targets fall along the references that are followed for one place of a value.
-/
def EndsBy (v : Validator) (rank : Target → Nat) : Prop :=
  ∀ d ∈ v.definitions, d.2.Uses (fun l => rank l.target < rank d.1) fun _ => True

instance (v : Validator) (rank : Target → Nat) : Decidable (v.EndsBy rank) :=
  inferInstanceAs (Decidable (∀ d ∈ v.definitions, d.2.Uses _ _))

/-- Whether no reference leads back to where it stands before it comes to a part of the value. -/
def Ends (v : Validator) : Prop := ∃ rank, v.EndsBy rank

end Validator

/-! ## Matching references -/

/-- Whether following two references gives the same for the values with fewer levels than a
number. -/
def SameAt (n : Nat) (F : Follow) (l : Link) (G : Follow) (l' : Link) : Prop :=
  ∀ x : Json, x.levels < n → F.errors l x = G.errors l' x ∧ F.looksAt l x = G.looksAt l' x

section

variable (f : Target → Target) (K : Target → Prop)

/-- Whether two references find targets by themselves that are given to each other, of those for
which this is known. -/
structure Link.Matches (l l' : Link) : Prop where
  kind : l.kind = .fixed
  kind' : l'.kind = .fixed
  known : K l.target
  target : l'.target = f l.target

/-- Whether what stands at the known targets of one validator stands at those given to them in
another one, but for references, which match. The ranks of targets fall along the references that
are followed for the same place of a value. -/
structure Simulation (rank : Target → Nat) (v w : Validator) : Prop where
  entry : ∀ t, K t → ∃ s g, v.definitions.lookup t = some s
    ∧ w.definitions.lookup (f t) = some (s.mapLinks g)
    ∧ s.Uses (fun l => l.Matches f K (g l) ∧ rank (f l.target) < rank (f t))
        fun l => l.Matches f K (g l)

end

namespace Simulation

variable {f : Target → Target} {K : Target → Prop} {rank : Target → Nat} {v w : Validator}
  (h : Simulation f K rank v w)

include h

/-- Following matching references gives the same, if what is being followed in the two validators
ranks above them. -/
theorem sameAt_followHere {n : Nat} {below below' : Scope → Follow}
    (hbelow : ∀ m < n, ∀ σ σ' l l', l.Matches f K l' → SameAt m (below σ) l (below' σ') l')
    {steps steps' : Nat} {opened opened' : List Target} {σ σ' : Scope} {l l' : Link}
    (hsteps : v.unopened opened < steps) (hsteps' : w.unopened opened' < steps')
    (hl : l.Matches f K l') (hopened : ∀ t ∈ opened, K t → rank (f l.target) < rank (f t))
    (hopened' : ∀ t ∈ opened', (∃ u, K u ∧ f u = t) → rank (f l.target) < rank t) :
    SameAt n (v.followHere below steps opened σ) l (w.followHere below' steps' opened' σ') l' := by
  induction steps generalizing steps' opened opened' σ σ' l l' with
  | zero => exact absurd hsteps (Nat.not_lt_zero _)
  | succ steps ih =>
      cases steps' with
      | zero => exact absurd hsteps' (Nat.not_lt_zero _)
      | succ steps' =>
          obtain ⟨s, g, hs, hs', huses⟩ := h.entry l.target hl.known
          rw [← hl.target] at hs'
          -- What is being followed ranks above the target, so the target is not among it.
          have hnew : l.target ∉ opened := fun hmem =>
            Nat.lt_irrefl _ (hopened _ hmem hl.known)
          have hnew' : l'.target ∉ opened' := fun hmem => by
            have hlt := hopened' _ hmem ⟨l.target, hl.known, hl.target.symm⟩
            rw [hl.target] at hlt
            exact Nat.lt_irrefl _ hlt
          obtain ⟨τ, hτ⟩ := v.followHere_fixed below steps σ hl.kind hnew hs
          obtain ⟨τ', hτ'⟩ := w.followHere_fixed below' steps' σ' hl.kind' hnew' hs'
          -- What the schema there follows for the same value ranks below, so it is new again.
          have hhere : ∀ k, k.Matches f K (g k) ∧ rank (f k.target) < rank (f l.target) →
              SameAt n (v.followHere below steps (l.target :: opened) τ) k
                (w.followHere below' steps' (l'.target :: opened') τ') (g k) := by
            rintro k ⟨hk, hrank⟩
            refine ih (Nat.lt_of_lt_of_le (v.unopened_cons_lt hs hnew) (Nat.le_of_lt_succ hsteps))
              (Nat.lt_of_lt_of_le (w.unopened_cons_lt hs' hnew')
                (Nat.le_of_lt_succ hsteps')) hk ?_ ?_
            · rw [List.forall_mem_cons]
              exact ⟨fun _ => hrank, fun t ht hknown => hrank.trans (hopened t ht hknown)⟩
            · rw [List.forall_mem_cons, hl.target]
              exact ⟨fun _ => hrank, fun t ht hgiven => hrank.trans (hopened' t ht hgiven)⟩
          intro x hx
          rw [(hτ x).1, (hτ x).2, (hτ' x).1, (hτ' x).2]
          refine Schema.carries g s huses ?_ (fun m hm => ?_) x hx
          · exact ⟨fun k hk y hy => (hhere k hk y hy).1, fun k hk y hy => (hhere k hk y hy).2⟩
          · exact ⟨fun k hk y hy => (hbelow m hm τ τ' k _ hk y hy).1,
              fun k hk y hy => (hbelow m hm τ τ' k _ hk y hy).2⟩

/-- Following matching references for some levels gives the same for values with no more levels. -/
theorem sameAt_follow {n levels levels' : Nat} (hlevels : n ≤ levels + 1)
    (hlevels' : n ≤ levels' + 1) (σ σ' : Scope) {l l' : Link} (hl : l.Matches f K l') :
    SameAt n (v.follow levels σ) l (w.follow levels' σ') l' := by
  -- The induction is on the levels: what is followed for a part of a value has one level fewer.
  induction levels generalizing n levels' σ σ' l l' with
  | zero => exact fun x hx => absurd (hx.trans_le hlevels) (Nat.not_lt.2 x.levels_pos)
  | succ levels ih =>
      cases levels' with
      | zero => exact fun x hx => absurd (hx.trans_le hlevels') (Nat.not_lt.2 x.levels_pos)
      | succ levels' =>
          rw [Validator.follow, Validator.follow]
          refine h.sameAt_followHere (fun m hm σ σ' l l' hl => ?_)
            (Nat.lt_succ_of_le (v.unopened_le_length _))
            (Nat.lt_succ_of_le (w.unopened_le_length _))
            hl (fun t ht => absurd ht List.not_mem_nil) fun t ht => absurd ht List.not_mem_nil
          exact ih (by omega) (by omega) σ σ' hl

/-- Where a reference of the second validator leads to the schema of the first one, following it
gives the errors of the first one. -/
theorem errors_followHere {g : Link → Link} {l : Link} (hkind : l.kind = .fixed)
    (hself : w.definitions.lookup l.target = some (v.schema.mapLinks g))
    (huses : v.schema.Uses
      (fun k => k.Matches f K (g k) ∧ rank (f k.target) < rank l.target)
      fun k => k.Matches f K (g k))
    (hknown : K v.self → f v.self = l.target) {levels steps : Nat} {opened : List Target}
    (hsteps : w.unopened opened < steps) (hnew : l.target ∉ opened)
    (hopened : ∀ t ∈ opened, (∃ u, K u ∧ f u = t) → rank l.target < rank t) (σ : Scope) {x : Json}
    (hx : x.levels ≤ levels) :
    (w.followHere (w.follow levels) steps opened σ).errors l x = v.errors x := by
  cases steps with
  -- A target of the table is not open, so a step is left for it.
  | zero => exact absurd hsteps (Nat.not_lt_zero _)
  | succ steps =>
      obtain ⟨τ, hτ⟩ := w.followHere_fixed (w.follow levels) steps σ hkind hnew hself
      rw [(hτ x).1]
      unfold Validator.errors
      have hbelow : ∀ m < x.levels + 1, ∀ σ σ' k k', k.Matches f K k' →
          SameAt m (v.follow x.levels σ) k (w.follow levels σ') k' := fun m hm σ σ' k k' hk =>
        h.sameAt_follow hm.le (hm.le.trans (Nat.succ_le_succ hx)) σ σ' hk
      have hhere : ∀ k, k.Matches f K (g k) ∧ rank (f k.target) < rank l.target →
          SameAt (x.levels + 1)
            (v.followHere (v.follow x.levels) (v.definitions.length + 1) [v.self] []) k
            (w.followHere (w.follow levels) steps (l.target :: opened) τ) (g k) := by
        -- Here the references of the schema fall in rank, and below they may lead anywhere.
        rintro k ⟨hk, hrank⟩
        refine h.sameAt_followHere hbelow (Nat.lt_succ_of_le (v.unopened_le_length _))
          (Nat.lt_of_lt_of_le (w.unopened_cons_lt hself hnew) (Nat.le_of_lt_succ hsteps)) hk ?_ ?_
        · rw [List.forall_mem_singleton]
          exact fun hself => (hknown hself).symm ▸ hrank
        · rw [List.forall_mem_cons]
          exact ⟨fun _ => hrank, fun t ht hgiven => hrank.trans (hopened t ht hgiven)⟩
      refine ((Schema.carries g v.schema huses ?_ (fun m hm => ?_) x (Nat.lt_succ_self _)).1).symm
      · exact ⟨fun k hk y hy => (hhere k hk y hy).1, fun k hk y hy => (hhere k hk y hy).2⟩
      · exact ⟨fun k hk y hy => (hbelow m hm _ _ k _ hk y hy).1,
          fun k hk y hy => (hbelow m hm _ _ k _ hk y hy).2⟩

end Simulation

end TypeCatalog
