import Mathlib.Data.Finset.Dedup
import Mathlib.Data.List.Perm.Lattice
import Mathlib.Data.String.Basic
import TypeCatalog.Proofs.TypeMap.Walk

/-!
# Circles of a type map

Each name leads on to one name at most, so the names of a type map that go in circles fall into
circles that have no name in common. `IsCircle` holds of the names of one, in the order in which a
walk passes them, begun anywhere. `IsCircle.toFinset_eq_of_mem` is the fact on which the rest
hangs: two circles that share a name have the same members.

`TypeMap.cycles` looks at every name in turn and keeps the members of the circles that it has
reported. `Diagnostic.TellsOf` reads a circle off a report. The main statement is
`cycles_tell_of_each_circle_once`: what is reported are circles, every circle is reported, no two
reports have the same members, and there is no report exactly when every name resolves. How the
walk comes to a circle, and where in the circle it does, makes no difference.
-/

set_option autoImplicit false

namespace TypeCatalog

/-! ## Names in their order -/

/-- Names in their order stay so when repeated ones are left out, and then none is repeated. -/
theorem Name.pairwise_lt_eraseDups :
    ∀ {names : List String}, names.Pairwise (· ≤ ·) → names.eraseDups.Pairwise (· < ·)
  | [], _ => by simp
  | name :: names, h => by
      obtain ⟨hle, hrest⟩ := List.pairwise_cons.1 h
      rw [List.eraseDups_cons, List.pairwise_cons]
      constructor
      · intro other hother
        rw [List.mem_eraseDups, List.mem_filter] at hother
        have hne : other ≠ name := by simpa using hother.2
        exact lt_of_le_of_ne (hle other hother.1) hne.symm
      · exact pairwise_lt_eraseDups (hrest.filter _)
termination_by names => names.length
decreasing_by
  rw [List.length_cons]
  exact Nat.lt_succ_of_le (List.length_filter_le _ _)

/-- The names of a circle, sorted, differ from each other. -/
theorem Name.pairwise_sortedDistinct (names : List String) :
    (sortedDistinct names).Pairwise (· < ·) := by
  have htrans (a b c : String) (hab : decide (a ≤ b) = true) (hbc : decide (b ≤ c) = true) :
      decide (a ≤ c) = true := by
    simp only [decide_eq_true_eq] at hab hbc ⊢
    exact hab.trans hbc
  have htotal (a b : String) : (decide (a ≤ b) || decide (b ≤ a)) = true := by
    simpa using le_total a b
  have hsorted := List.pairwise_mergeSort htrans htotal names
  exact pairwise_lt_eraseDups (by simpa using hsorted)

/-- Sorting drops none of the names and adds none. -/
@[simp]
theorem Name.mem_sortedDistinct {names : List String} {name : String} :
    name ∈ sortedDistinct names ↔ name ∈ names := by
  unfold sortedDistinct
  rw [List.mem_eraseDups, (List.mergeSort_perm _ _).mem_iff]

/-- What is kept of names is their set. -/
theorem Name.sortedDistinct_eq_iff {a b : List String} :
    sortedDistinct a = sortedDistinct b ↔ a.toFinset = b.toFinset := by
  simp only [Finset.ext_iff, List.mem_toFinset]
  constructor
  · intro h name
    rw [← mem_sortedDistinct, h, mem_sortedDistinct]
  · intro h
    have ha := pairwise_sortedDistinct a
    have hb := pairwise_sortedDistinct b
    have hperm : (sortedDistinct a).Perm (sortedDistinct b) :=
      (List.perm_ext_iff_of_nodup (ha.imp ne_of_lt) (hb.imp ne_of_lt)).2 fun name => by simp [h]
    exact hperm.eq_of_pairwise (fun x y _ _ hxy hyx => absurd hyx (not_lt_of_gt hxy)) ha hb

namespace TypeMap

variable {m : TypeMap} {acceptEnums : Bool}

/-! ## Circles -/

/-- A walk leads from its first name to every name on it. -/
theorem IsWalk.reaches {names : List String} {first a : String} (h : IsWalk m acceptEnums names)
    (hfirst : names.head? = some first) (ha : a ∈ names) :
    Relation.ReflTransGen (Leads m acceptEnums) first a := by
  induction names generalizing first with
  | nil => cases hfirst
  | cons head names ih =>
      obtain rfl : head = first := Option.some.inj hfirst
      rcases List.mem_cons.1 ha with rfl | ha
      · exact .refl
      · cases names with
        | nil => cases ha
        | cons next names =>
            obtain ⟨hstep, hrest⟩ := List.isChain_cons_cons.1 h
            exact .head hstep (ih hrest rfl ha)

/-- Names in a circle: none is repeated, and a walk passes them one after the other and then comes
back to the first. -/
structure IsCircle (m : TypeMap) (acceptEnums : Bool) (names : List String) : Prop where
  nodup : names.Nodup
  closes : ∃ first, names.head? = some first ∧ IsWalk m acceptEnums (names ++ [first])

namespace IsCircle

variable {names others : List String} {a b : String}

/-- A walk in a circle stays in it. -/
theorem mem_of_leads (h : IsCircle m acceptEnums names) (ha : a ∈ names)
    (hab : Leads m acceptEnums a b) : b ∈ names := by
  obtain ⟨first, hfirst, hwalk⟩ := h.closes
  obtain ⟨before, after, rfl⟩ := List.append_of_mem ha
  rw [List.append_assoc, List.cons_append] at hwalk
  have hrest := hwalk.right_of_append
  cases after with
  | nil =>
      -- The last name of the circle leads to the first.
      have hback := leads_unique hab (List.isChain_pair.1 hrest)
      exact hback ▸ List.mem_of_head? hfirst
  | cons next after =>
      have hnext := leads_unique hab (List.isChain_cons_cons.1 hrest).1
      simp [hnext]

/-- Whatever a circle leads to is in it. -/
theorem mem_of_reaches (h : IsCircle m acceptEnums names) (ha : a ∈ names)
    (hab : Relation.ReflTransGen (Leads m acceptEnums) a b) : b ∈ names := by
  induction hab with
  | refl => exact ha
  | tail _ hstep ih => exact h.mem_of_leads ih hstep

/-- Every name of a circle leads to the first one, in a step or more. -/
theorem leads_first (h : IsCircle m acceptEnums names) {first : String}
    (hfirst : names.head? = some first) (ha : a ∈ names) :
    Relation.TransGen (Leads m acceptEnums) a first := by
  obtain ⟨first', hfirst', hwalk⟩ := h.closes
  obtain rfl : first = first' := Option.some.inj (hfirst.symm.trans hfirst')
  obtain ⟨before, after, rfl⟩ := List.append_of_mem ha
  rw [List.append_assoc, List.cons_append] at hwalk
  exact leads_of_isWalk hwalk.right_of_append

/-- The first name of a circle leads to every name of it. -/
theorem first_reaches (h : IsCircle m acceptEnums names) {first : String}
    (hfirst : names.head? = some first) (ha : a ∈ names) :
    Relation.ReflTransGen (Leads m acceptEnums) first a := by
  obtain ⟨_, -, hwalk⟩ := h.closes
  refine hwalk.reaches ?_ (List.mem_append_left _ ha)
  rw [List.head?_append, hfirst, Option.some_or]

/-- No walk from a name in a circle comes to an end. -/
theorem not_reaches (h : IsCircle m acceptEnums names) (ha : a ∈ names) {stop : String}
    {total : Nat} {r : Resolution} : ¬ Reaches m acceptEnums a stop total r := by
  intro hreach
  obtain ⟨first, hfirst, -⟩ := h.closes
  have hback := (h.leads_first hfirst ha).trans_left (h.first_reaches hfirst ha)
  exact not_leads_self_of_reaches hreach hback

/-- A circle that shares a name with another one is inside of it. -/
theorem subset_of_mem (h : IsCircle m acceptEnums names) (h' : IsCircle m acceptEnums others)
    (ha : a ∈ names) (ha' : a ∈ others) : names ⊆ others := by
  intro b hb
  obtain ⟨first, hfirst, -⟩ := h.closes
  have hab := (h.leads_first hfirst ha).to_reflTransGen.trans (h.first_reaches hfirst hb)
  exact h'.mem_of_reaches ha' hab

/-- Circles that have a name in common are the same. -/
theorem toFinset_eq_of_mem (h : IsCircle m acceptEnums names)
    (h' : IsCircle m acceptEnums others) (ha : a ∈ names) (ha' : a ∈ others) :
    names.toFinset = others.toFinset := by
  ext b
  rw [List.mem_toFinset, List.mem_toFinset]
  exact ⟨fun hb => h.subset_of_mem h' ha ha' hb, fun hb => h'.subset_of_mem h ha' ha hb⟩

/-- The names of a circle are names of references. -/
theorem mem_typeNames (h : IsCircle m acceptEnums names) (ha : a ∈ names) : a ∈ m.typeNames := by
  obtain ⟨first, hfirst, -⟩ := h.closes
  obtain ⟨_, ⟨_, ⟨_, hfound, _⟩⟩, _⟩ := Relation.TransGen.head'_iff.1 (h.leads_first hfirst ha)
  exact List.mem_append_left _ (mem_typeNames_of_ref? hfound)

end IsCircle

end TypeMap

/-! ## The circle at the end of a walk -/

/-- A chain of names runs into a circle: what stands from the first occurrence of its last name on
is the circle and the name itself. -/
def Cycle.RunsInto (c : Cycle) (names : List String) : Prop :=
  ∃ last, c.chain.getLast? = some last ∧ c.chain.dropWhile (· ≠ last) = names ++ [last]

/-- A diagnostic tells of a circle: it is one for cyclic references, and the chain of its details
runs into the circle. -/
def Diagnostic.TellsOf (d : Diagnostic) (names : List String) : Prop :=
  d.kind = .cyclicReference ∧ ∃ chain, d.details = .object [("chain", .ofStrings chain)]
    ∧ Cycle.RunsInto ⟨chain⟩ names

namespace Cycle

variable {c : Cycle} {names others : List String}

/-- A walk runs into one circle only. -/
theorem RunsInto.unique (h : c.RunsInto names) (h' : c.RunsInto others) : names = others := by
  obtain ⟨last, hlast, hdrop⟩ := h
  obtain ⟨last', hlast', hdrop'⟩ := h'
  obtain rfl : last = last' := Option.some.inj (hlast.symm.trans hlast')
  exact List.append_cancel_right (hdrop.symm.trans hdrop')

/-- The members of a chain that runs into a circle are those of the circle. -/
theorem RunsInto.members_eq {m : TypeMap} {acceptEnums : Bool} (h : c.RunsInto names)
    (hcircle : m.IsCircle acceptEnums names) : c.members = Name.sortedDistinct names := by
  obtain ⟨last, hlast, hdrop⟩ := h
  unfold members
  rw [hlast]
  dsimp only
  rw [hdrop, Name.sortedDistinct_eq_iff]
  -- The last name of the chain is in the circle already.
  have hmem : last ∈ names := by
    obtain ⟨first, hfirst, -⟩ := hcircle.closes
    have hhead := List.head?_dropWhile_not (fun name => decide (name ≠ last)) c.chain
    rw [hdrop] at hhead
    simp [List.head?_append, hfirst] at hhead
    exact hhead ▸ List.mem_of_head? hfirst
  ext name
  simp only [List.mem_toFinset, List.mem_append, List.mem_singleton]
  exact or_iff_left_of_imp fun hname => hname ▸ hmem

/-- Lists of different texts are written differently. -/
theorem ofStrings_injective : Function.Injective Json.ofStrings := by
  intro a b h
  unfold Json.ofStrings at h
  exact List.map_injective_iff.2 (fun _ _ => Json.string.inj) (Json.array.inj h)

/-- What the diagnostic for a chain tells of. -/
theorem tellsOf_toDiagnostic_iff {name : String} :
    (c.toDiagnostic name).TellsOf names ↔ c.RunsInto names := by
  constructor
  · rintro ⟨-, chain, hdetails, hruns⟩
    have hchain : c.chain = chain := by
      injection hdetails with hmembers
      simpa using ofStrings_injective (Prod.mk.inj (List.cons.inj hmembers).1).2
    subst hchain
    exact hruns
  · exact fun h => ⟨rfl, c.chain, rfl, h⟩

end Cycle

namespace TypeMap

variable {m : TypeMap} {acceptEnums : Bool}

/-- A walk that meets a name again has run into a circle. -/
theorem exists_isCircle_of_resolve_eq_error {name : String} {c : Cycle}
    (h : m.resolve acceptEnums name 0 = .error c) :
    ∃ names, c.RunsInto names ∧ IsCircle m acceptEnums names
      ∧ ∃ a ∈ names, Relation.ReflTransGen (Leads m acceptEnums) name a := by
  rcases resolve_cases m acceptEnums name 0 with
    ⟨stop, total, r, -, heq⟩ | ⟨seen, last, heq, hbehind, hlast⟩
  · rw [heq] at h
    cases h
  · rw [heq] at h
    cases h
    -- The name that is met again cuts the walk in two: what leads to it, and the circle that begins
    -- there.
    obtain ⟨before, after, hsplit⟩ := List.append_of_mem (List.mem_reverse.2 hlast)
    have hnodup := List.nodup_reverse.2 hbehind.nodup
    have hwalk := hbehind.isWalk
    have hbegins := hbehind.begins
    rw [hsplit] at hnodup hwalk hbegins
    have hnew : last ∉ before := fun hmem =>
      List.disjoint_of_nodup_append hnodup hmem List.mem_cons_self
    refine ⟨last :: after, ⟨last, by simp, ?_⟩,
      ⟨hnodup.of_append_right, last, rfl, ?_⟩, last, List.mem_cons_self, ?_⟩
    · -- What leads into the circle is dropped, and nothing else.
      dsimp only
      rw [hsplit, List.append_assoc, List.dropWhile_append_of_pos]
      · simp
      · intro other hother
        have hne : other ≠ last := fun heq => hnew (heq ▸ hother)
        simpa using hne
    · rw [List.append_assoc] at hwalk
      exact hwalk.right_of_append
    · exact IsWalk.reaches hwalk hbegins (by simp)

/-- The circle that the report of a walk tells of, and what is kept of it. -/
theorem isCircle_of_tellsOf {name other : String} {c : Cycle} {names : List String}
    (hc : m.resolve acceptEnums name 0 = .error c) (h : (c.toDiagnostic other).TellsOf names) :
    IsCircle m acceptEnums names ∧ c.members = Name.sortedDistinct names := by
  have hruns := Cycle.tellsOf_toDiagnostic_iff.1 h
  obtain ⟨circle, hruns', hcircle, -⟩ := exists_isCircle_of_resolve_eq_error hc
  obtain rfl : names = circle := hruns.unique hruns'
  exact ⟨hcircle, hruns.members_eq hcircle⟩

/-! ## Reports -/

section Reports

variable {reported : List (List String)} {name : String} {names : List String}

/-- A name that resolves is passed over. -/
theorem cyclesFrom_cons_of_ok {a : Assignment} (h : m.resolve true name 0 = .ok a) :
    m.cyclesFrom reported (name :: names) = m.cyclesFrom reported names := by
  simp [cyclesFrom, h]

/-- So is one whose circle was reported before. -/
theorem cyclesFrom_cons_of_mem {c : Cycle} (h : m.resolve true name 0 = .error c)
    (hreported : c.members ∈ reported) :
    m.cyclesFrom reported (name :: names) = m.cyclesFrom reported names := by
  simp [cyclesFrom, h, hreported]

/-- Any other name is reported, and its circle counts as reported from then on. -/
theorem cyclesFrom_cons_of_notMem {c : Cycle} (h : m.resolve true name 0 = .error c)
    (hnew : c.members ∉ reported) :
    m.cyclesFrom reported (name :: names)
      = c.toDiagnostic name :: m.cyclesFrom (c.members :: reported) names := by
  simp [cyclesFrom, h, hnew]

/-- A name adds nothing to the reports, or that of its own walk where its circle has not been
reported. -/
theorem cyclesFrom_cons (m : TypeMap) (reported : List (List String)) (name : String)
    (names : List String) :
    m.cyclesFrom reported (name :: names) = m.cyclesFrom reported names
    ∨ ∃ c, m.resolve true name 0 = .error c ∧ c.members ∉ reported
      ∧ m.cyclesFrom reported (name :: names)
        = c.toDiagnostic name :: m.cyclesFrom (c.members :: reported) names := by
  cases h : m.resolve true name 0 with
  | ok a => exact .inl (cyclesFrom_cons_of_ok h)
  | error c =>
      by_cases hreported : c.members ∈ reported
      · exact .inl (cyclesFrom_cons_of_mem h hreported)
      · exact .inr ⟨c, rfl, hreported, cyclesFrom_cons_of_notMem h hreported⟩

/-- Every report is that of the walk from one of the names, whose circle was not reported. -/
theorem exists_of_mem_cyclesFrom {d : Diagnostic} (h : d ∈ m.cyclesFrom reported names) :
    ∃ name ∈ names, ∃ c, m.resolve true name 0 = .error c ∧ d = c.toDiagnostic name
      ∧ c.members ∉ reported := by
  induction names generalizing reported with
  | nil => simp [cyclesFrom] at h
  | cons name names ih =>
      rcases cyclesFrom_cons m reported name names with heq | ⟨c, hc, hnew, heq⟩
      · rw [heq] at h
        obtain ⟨other, hother, rest⟩ := ih h
        exact ⟨other, List.mem_cons_of_mem _ hother, rest⟩
      · rw [heq] at h
        rcases List.mem_cons.1 h with rfl | h
        · exact ⟨name, List.mem_cons_self, c, hc, rfl, hnew⟩
        · obtain ⟨other, hother, c', hc', hd, hnew'⟩ := ih h
          exact ⟨other, List.mem_cons_of_mem _ hother, c', hc', hd,
            fun hmem => hnew' (List.mem_cons_of_mem _ hmem)⟩

/-- The circle of every name is among those that were reported or is reported. -/
theorem exists_mem_cyclesFrom {c : Cycle} (hname : name ∈ names)
    (hc : m.resolve true name 0 = .error c) : c.members ∈ reported
      ∨ ∃ other c', m.resolve true other 0 = .error c' ∧ c'.members = c.members
        ∧ c'.toDiagnostic other ∈ m.cyclesFrom reported names := by
  induction names generalizing reported with
  | nil => cases hname
  | cons head names ih =>
      by_cases hreported : c.members ∈ reported
      · exact .inl hreported
      · right
        rcases List.mem_cons.1 hname with rfl | hname
        · refine ⟨name, c, hc, rfl, ?_⟩
          rw [cyclesFrom_cons_of_notMem hc hreported]
          exact List.mem_cons_self
        · rcases cyclesFrom_cons m reported head names with heq | ⟨c', hc', -, heq⟩
          · rw [heq]
            exact (ih hname).resolve_left hreported
          · rw [heq]
            -- Either the circle has just been reported, or the rest reports it.
            by_cases hsame : c'.members = c.members
            · exact ⟨head, c', hc', hsame, List.mem_cons_self⟩
            · obtain ⟨other, c'', hc'', hmembers, hmem⟩ := (ih hname).resolve_left
                (List.not_mem_cons_of_ne_of_not_mem (Ne.symm hsame) hreported)
              exact ⟨other, c'', hc'', hmembers, List.mem_cons_of_mem _ hmem⟩

/-- No two reports have the same members. -/
theorem pairwise_cyclesFrom : (m.cyclesFrom reported names).Pairwise fun d e =>
    ∀ a b, d.TellsOf a → e.TellsOf b → a.toFinset ≠ b.toFinset := by
  induction names generalizing reported with
  | nil => simp [cyclesFrom]
  | cons name names ih =>
      rcases cyclesFrom_cons m reported name names with heq | ⟨c, hc, -, heq⟩
      · rw [heq]
        exact ih
      · rw [heq, List.pairwise_cons]
        refine ⟨?_, ih⟩
        intro e he a b ha hb hset
        obtain ⟨other, -, c', hc', rfl, hnew⟩ := exists_of_mem_cyclesFrom he
        have hmembers : c'.members = c.members := by
          rw [(isCircle_of_tellsOf hc ha).2, (isCircle_of_tellsOf hc' hb).2,
            Name.sortedDistinct_eq_iff.2 hset]
        -- The members of the first report are kept, so no later one has them.
        exact hnew (hmembers ▸ List.mem_cons_self)

end Reports

/-- No circle is reported exactly when every name of the map resolves. -/
theorem cycles_eq_nil_iff :
    m.cycles = [] ↔ ∀ name ∈ m.typeNames, ∃ a, m.resolve true name 0 = .ok a := by
  constructor
  · intro h name hname
    cases hc : m.resolve true name 0 with
    | ok a => exact ⟨a, rfl⟩
    | error c =>
        obtain ⟨_, _, -, -, hmem⟩ := (exists_mem_cyclesFrom hname hc).resolve_left List.not_mem_nil
        have hreport : _ ∈ m.cycles := hmem
        simp [h] at hreport
  · intro h
    refine List.eq_nil_iff_forall_not_mem.2 fun d hd => ?_
    obtain ⟨name, hname, c, hc, -⟩ := exists_of_mem_cyclesFrom hd
    obtain ⟨a, ha⟩ := h name hname
    rw [hc] at ha
    cases ha

/-- Every circle of a type map is reported once. What a report tells of is a circle of the walk that
accepts enums; no two reports have the same members, wherever their walks begin; every circle has a
report with its members; and there is none exactly when every name of the map resolves. -/
theorem cycles_tell_of_each_circle_once (m : TypeMap) :
    (∀ d ∈ m.cycles, ∃ names, d.TellsOf names ∧ IsCircle m true names)
    ∧ (m.cycles.Pairwise fun d e =>
      ∀ a b, d.TellsOf a → e.TellsOf b → a.toFinset ≠ b.toFinset)
    ∧ (∀ names, IsCircle m true names →
      ∃ d ∈ m.cycles, ∃ told, d.TellsOf told ∧ told.toFinset = names.toFinset)
    ∧ (m.cycles = [] ↔ ∀ name ∈ m.typeNames, ∃ a, m.resolve true name 0 = .ok a) := by
  refine ⟨?_, pairwise_cyclesFrom, ?_, cycles_eq_nil_iff⟩
  · intro d hd
    obtain ⟨name, -, c, hc, rfl, -⟩ := exists_of_mem_cyclesFrom hd
    obtain ⟨names, hruns, hcircle, -⟩ := exists_isCircle_of_resolve_eq_error hc
    exact ⟨names, Cycle.tellsOf_toDiagnostic_iff.2 hruns, hcircle⟩
  · intro names hnames
    obtain ⟨first, hfirst, -⟩ := hnames.closes
    have hmem := List.mem_of_head? hfirst
    -- The walk from the first name of the circle does not come to an end, so it is reported.
    obtain ⟨c, hc⟩ : ∃ c, m.resolve true first 0 = .error c := by
      rcases resolve_cases m true first 0 with ⟨_, _, _, hreach, -⟩ | ⟨_, _, heq, -, -⟩
      · exact absurd hreach (hnames.not_reaches hmem)
      · exact ⟨_, heq⟩
    obtain ⟨other, c', hc', hmembers, hreport⟩ :=
      (exists_mem_cyclesFrom (hnames.mem_typeNames hmem) hc).resolve_left List.not_mem_nil
    obtain ⟨circle, hruns, hcircle, a, ha, hto⟩ := exists_isCircle_of_resolve_eq_error hc
    obtain ⟨told, hruns', htold, -⟩ := exists_isCircle_of_resolve_eq_error hc'
    refine ⟨_, hreport, told, Cycle.tellsOf_toDiagnostic_iff.2 hruns', ?_⟩
    have hsame : told.toFinset = circle.toFinset := by
      rw [← Name.sortedDistinct_eq_iff, ← hruns'.members_eq htold, hmembers,
        hruns.members_eq hcircle]
    -- That walk stays in the circle in which it begins.
    exact hsame.trans (hcircle.toFinset_eq_of_mem hnames ha (hnames.mem_of_reaches hmem hto))

end TypeMap

end TypeCatalog
