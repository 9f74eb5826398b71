import Mathlib.Data.List.Chain
import Mathlib.Data.List.Nodup
import Mathlib.Data.List.Perm.Basic
import Mathlib.Logic.Relation
import TypeCatalog.TypeMap.Resolve

/-!
# Where a walk through a type map leads

`TypeMap.resolve` counts its steps and remembers the names behind it. This file says what it
computes without either. `Stops` holds of a name where a walk ends, with the lists that the node
there adds and what the name stands for. `Follows` is one step: the first reference of a name
leads on to its target. Of every name exactly one of the two holds, and in one way only.

`Reaches` is a walk that comes to an end, with the lists that all of its nodes add, the last one
included. The main statement is `resolve_eq_walk`: where a walk comes to an end, `resolve` answers
with that end; where none does, it answers with the walk itself up to the first name that it meets
again. So the bound on the number of steps is never what ends a walk.

`TypeMap.walk` is the recursion behind `resolve`. It has one more step than there are references,
and `Behind` carries what bounds it: the names behind the walk differ and each of them is that of a
reference, so they are no more than the references are.
-/

set_option autoImplicit false

namespace TypeCatalog.TypeMap

variable (m : TypeMap) (acceptEnums : Bool)

/-- A walk ends at a name, whose node adds some lists: at a name without a slash, at the first
reference of the name where that is the root of a scalar or of an enum that the caller accepts, at
an object where no reference has the name, and at a name that no node has. -/
inductive Stops (name : String) : Nat → Resolution → Prop where
  | primitive (bare : isQualified name = false) : Stops name 0 .primitive
  | scalar {n : RefNode} (qualified : isQualified name = true) (found : m.ref? name = some n)
      (root : n.isRoot = true) (scalar : n.isScalar = true) : Stops name n.arrayCount .scalar
  | enum {n : RefNode} (qualified : isQualified name = true) (found : m.ref? name = some n)
      (root : n.isRoot = true) (other : n.isScalar = false) (enum : n.isEnum = true)
      (accepted : acceptEnums = true) : Stops name n.arrayCount .enum
  | object {n : ObjectNode} (qualified : isQualified name = true) (none : m.ref? name = none)
      (found : m.object? name = some n) : Stops name n.arrayCount .object
  | unknown (qualified : isQualified name = true) (none : m.ref? name = none)
      (nothing : m.object? name = Option.none) : Stops name 0 .unknown

/-- A walk goes on from a name to the target of its first reference, which adds some lists. The
reference is neither the root of a scalar nor that of an enum that the caller accepts. -/
inductive Follows (name : String) : Nat → String → Prop where
  | ref {n : RefNode} (qualified : isQualified name = true) (found : m.ref? name = some n)
      (goesOn : ¬ (n.isRoot = true ∧ (n.isScalar = true ∨ n.isEnum = true ∧ acceptEnums = true))) :
      Follows name n.arrayCount n.target

/-- A walk from a name that comes to an end, with the number of lists that its nodes add and what
its end stands for. -/
inductive Reaches : String → String → Nat → Resolution → Prop where
  | stop {name : String} {k : Nat} {r : Resolution} (stops : Stops m acceptEnums name k r) :
      Reaches name name k r
  | step {name next stop : String} {k total : Nat} {r : Resolution}
      (follows : Follows m acceptEnums name k next) (rest : Reaches next stop total r) :
      Reaches name stop (k + total) r

/-- One step of a walk, whatever lists it adds. -/
def Leads (name next : String) : Prop := ∃ k, Follows m acceptEnums name k next

/-- Names that a walk passes one after the other. -/
def IsWalk (names : List String) : Prop := names.IsChain (Leads m acceptEnums)

variable {m acceptEnums}

/-! ## Walks are determined -/

/-- Where a walk stops it does not go on. -/
theorem not_follows_of_stops {name next : String} {k l : Nat} {r : Resolution}
    (hs : Stops m acceptEnums name k r) : ¬ Follows m acceptEnums name l next := by
  rintro ⟨hq, hf, hgo⟩
  cases hs with
  | primitive bare =>
      rw [bare] at hq
      exact Bool.false_ne_true hq
  | scalar _ found root scalar =>
      rw [found] at hf
      cases hf
      exact hgo ⟨root, .inl scalar⟩
  | enum _ found root _ enum accepted =>
      rw [found] at hf
      cases hf
      exact hgo ⟨root, .inr ⟨enum, accepted⟩⟩
  | object _ none _ => simp [none] at hf
  | unknown _ none _ => simp [none] at hf

/-- A name is the end of a walk in one way only. -/
theorem stops_unique {name : String} {k l : Nat} {r s : Resolution}
    (h : Stops m acceptEnums name k r) (h' : Stops m acceptEnums name l s) : k = l ∧ r = s := by
  cases h <;> cases h' <;> simp_all

/-- A name leads on to one name only. -/
theorem follows_unique {name a b : String} {k l : Nat} (h : Follows m acceptEnums name k a)
    (h' : Follows m acceptEnums name l b) : k = l ∧ a = b := by
  obtain ⟨-, hf, -⟩ := h
  obtain ⟨-, hf', -⟩ := h'
  rw [hf] at hf'
  cases hf'
  exact ⟨rfl, rfl⟩

/-- A name leads on to one name at most. -/
theorem leads_unique {name a b : String} (h : Leads m acceptEnums name a)
    (h' : Leads m acceptEnums name b) : a = b := by
  obtain ⟨_, h⟩ := h
  obtain ⟨_, h'⟩ := h'
  exact (follows_unique h h').2

/-- All walks from a name that come to an end are the same. -/
theorem reaches_unique {name stop stop' : String} {total total' : Nat} {r r' : Resolution}
    (h : Reaches m acceptEnums name stop total r)
    (h' : Reaches m acceptEnums name stop' total' r') :
    stop = stop' ∧ total = total' ∧ r = r' := by
  induction h generalizing total' with
  | stop stops =>
      cases h' with
      | stop stops' =>
          obtain ⟨hk, hr⟩ := stops_unique stops stops'
          exact ⟨rfl, hk, hr⟩
      | step follows _ => exact absurd follows (not_follows_of_stops stops)
  | step follows _ ih =>
      cases h' with
      | stop stops => exact absurd follows (not_follows_of_stops stops)
      | step follows' rest' =>
          obtain ⟨rfl, rfl⟩ := follows_unique follows follows'
          obtain ⟨hs, rfl, hr⟩ := ih rest'
          exact ⟨hs, rfl, hr⟩

/-! ## Walks that come to an end have no circle -/

/-- What lies on a walk that comes to an end comes to an end, too. -/
theorem reaches_of_leads {name next stop : String} {total : Nat} {r : Resolution}
    (h : Reaches m acceptEnums name stop total r)
    (hn : Relation.ReflTransGen (Leads m acceptEnums) name next) :
    ∃ rest, Reaches m acceptEnums next stop rest r := by
  induction hn with
  | refl => exact ⟨total, h⟩
  | tail _ hstep ih =>
      obtain ⟨_, hrest⟩ := ih
      obtain ⟨_, hstep⟩ := hstep
      cases hrest with
      | stop stops => exact absurd hstep (not_follows_of_stops stops)
      | step follows rest =>
          obtain ⟨-, rfl⟩ := follows_unique hstep follows
          exact ⟨_, rest⟩

/-- A walk that comes to an end does not lead back to where it began. -/
theorem not_leads_self_of_reaches {name stop : String} {total : Nat} {r : Resolution}
    (h : Reaches m acceptEnums name stop total r) :
    ¬ Relation.TransGen (Leads m acceptEnums) name name := by
  induction h with
  | stop stops =>
      intro hself
      obtain ⟨_, ⟨_, hfirst⟩, _⟩ := Relation.TransGen.head'_iff.1 hself
      exact not_follows_of_stops stops hfirst
  | step follows _ ih =>
      intro hself
      obtain ⟨second, hfirst, hback⟩ := Relation.TransGen.head'_iff.1 hself
      -- The circle through the first name is one through the second name as well.
      have hsecond := leads_unique hfirst ⟨_, follows⟩
      subst hsecond
      exact ih (Relation.TransGen.tail' hback hfirst)

/-! ## What the search computes -/

/-- The reference where a walk goes on. -/
theorem follows_of_stopAt?_eq_none {name : String} {n : RefNode} (hq : isQualified name = true)
    (hf : m.ref? name = some n) (hs : stopAt? acceptEnums n = none) :
    Follows m acceptEnums name n.arrayCount n.target := by
  refine .ref hq hf ?_
  rintro ⟨hroot, hscalar | ⟨henum, haccept⟩⟩
  · simp [stopAt?, hroot, hscalar] at hs
  · cases hscalar : n.isScalar <;> simp [stopAt?, hroot, hscalar, henum, haccept] at hs

/-- The reference where a walk stops. -/
theorem stops_of_stopAt?_eq_some {name : String} {n : RefNode} {r : Resolution}
    (hq : isQualified name = true) (hf : m.ref? name = some n)
    (hs : stopAt? acceptEnums n = some r) : Stops m acceptEnums name n.arrayCount r := by
  unfold stopAt? at hs
  split at hs
  · rename_i h
    rw [Bool.and_eq_true] at h
    cases hs
    exact .scalar hq hf h.1 h.2
  · rename_i hscalar
    split at hs
    · rename_i h
      rw [Bool.and_eq_true, Bool.and_eq_true] at h
      obtain ⟨⟨hroot, henum⟩, haccept⟩ := h
      cases hs
      rw [hroot, Bool.true_and, Bool.not_eq_true] at hscalar
      exact .enum hq hf hroot hscalar henum haccept
    · cases hs

/-- A name with a reference is among the names of the references. -/
theorem mem_typeNames_of_ref? {name : String} {n : RefNode} (h : m.ref? name = some n) :
    name ∈ m.refs.map RefNode.typeName := by
  have hmem := List.mem_of_find?_eq_some h
  have hname : n.typeName = name := by simpa using List.find?_some h
  exact hname ▸ List.mem_map_of_mem hmem

/-- What is true of the names behind a walk, the last of which stands first, when the walk has come
from its start to a name: they are different names of references, and the walk passes them in their
order. -/
structure Behind (m : TypeMap) (acceptEnums : Bool) (start : String) (visited : List String)
    (name : String) : Prop where
  nodup : visited.Nodup
  refs : ∀ v ∈ visited, v ∈ m.refs.map RefNode.typeName
  isWalk : IsWalk m acceptEnums (visited.reverse ++ [name])
  begins : (visited.reverse ++ [name]).head? = some start

/-- Nothing is behind a walk that begins. -/
theorem Behind.begin (name : String) : Behind m acceptEnums name [] name where
  nodup := List.nodup_nil
  refs := by simp
  isWalk := List.isChain_singleton name
  begins := rfl

/-- One more step. -/
theorem Behind.follow {start : String} {visited : List String} {name next : String} {k : Nat}
    (h : Behind m acceptEnums start visited name) (hnew : name ∉ visited)
    (hf : Follows m acceptEnums name k next) :
    Behind m acceptEnums start (name :: visited) next where
  nodup := List.nodup_cons.2 ⟨hnew, h.nodup⟩
  refs := by
    intro v hv
    rcases List.mem_cons.1 hv with rfl | hv
    · obtain ⟨-, hf, -⟩ := hf
      exact mem_typeNames_of_ref? hf
    · exact h.refs v hv
  isWalk := by
    rw [List.reverse_cons]
    refine List.isChain_append.2 ⟨h.isWalk, List.isChain_singleton next, ?_⟩
    simp only [List.getLast?_append, List.getLast?_singleton, List.head?_cons]
    intro a ha b hb
    cases ha
    cases hb
    exact ⟨k, hf⟩
  begins := by rw [List.reverse_cons, List.head?_append, h.begins, Option.some_or]

/-- There are no more names behind a walk than references. -/
theorem Behind.length_le {start : String} {visited : List String} {name : String}
    (h : Behind m acceptEnums start visited name) : visited.length ≤ m.refs.length := by
  have hsub := (List.subperm_of_subset h.nodup h.refs).length_le
  rwa [List.length_map] at hsub

/-- The walk of the search, with steps left for every reference that is not behind it. It comes to
an end, or else to a name behind it. -/
theorem walk_eq {start : String} {steps : Nat} {visited : List String} {name : String}
    {depth : Nat} (h : Behind m acceptEnums start visited name)
    (hsteps : steps + visited.length = m.refs.length + 1) :
    (∃ stop total r, Reaches m acceptEnums name stop total r
      ∧ m.walk acceptEnums steps visited name depth = .ok ⟨stop, depth + total, r⟩)
    ∨ ∃ seen last, m.walk acceptEnums steps visited name depth = .error ⟨seen.reverse ++ [last]⟩
      ∧ Behind m acceptEnums start seen last ∧ last ∈ seen := by
  -- The induction is on the steps that are left. With none left every reference would be behind the
  -- walk, which the bound excludes.
  induction steps generalizing visited name depth with
  | zero =>
      have := h.length_le
      omega
  | succ steps ih =>
      unfold walk
      by_cases hq : isQualified name = true
      · rw [if_neg (by simp [hq])]
        -- A name that is behind the walk ends it in a circle.
        by_cases hv : name ∈ visited
        · rw [if_pos (List.contains_iff_mem.2 hv)]
          exact .inr ⟨visited, name, by rw [List.reverse_cons], h, hv⟩
        · rw [if_neg (by simp [hv])]
          unfold node?
          cases hr : m.ref? name with
          | none =>
              left
              cases ho : m.object? name with
              | none => exact ⟨name, 0, .unknown, .stop (.unknown hq hr ho), rfl⟩
              | some n => exact ⟨name, n.arrayCount, .object, .stop (.object hq hr ho), rfl⟩
          | some n =>
              dsimp only
              cases hstop : stopAt? acceptEnums n with
              | some r =>
                  exact .inl
                    ⟨name, n.arrayCount, r, .stop (stops_of_stopAt?_eq_some hq hr hstop), rfl⟩
              | none =>
                  have hf := follows_of_stopAt?_eq_none hq hr hstop
                  rcases ih (h.follow hv hf) (by rw [List.length_cons]; omega) with
                    ⟨stop, total, r, hreach, heq⟩ | ⟨seen, last, heq, hbehind, hlast⟩
                  · refine .inl ⟨stop, n.arrayCount + total, r, .step hf hreach, ?_⟩
                    rw [heq, Nat.add_assoc]
                  · exact .inr ⟨seen, last, heq, hbehind, hlast⟩
      · rw [if_pos (by simp [hq])]
        exact .inl ⟨name, 0, .primitive, .stop (.primitive (by simpa using hq)), rfl⟩

/-- A walk leads from its first name to its last. -/
theorem leads_of_isWalk {first last : String} {names : List String}
    (h : IsWalk m acceptEnums (first :: (names ++ [last]))) :
    Relation.TransGen (Leads m acceptEnums) first last := by
  induction names generalizing first with
  | nil => exact .single (List.isChain_pair.1 h)
  | cons next names ih =>
      obtain ⟨hstep, hrest⟩ := List.isChain_cons_cons.1 h
      exact .head hstep (ih hrest)

/-- A walk that meets a name again does not come to an end. -/
theorem Behind.not_reaches {start : String} {seen : List String} {last : String}
    (h : Behind m acceptEnums start seen last) (hlast : last ∈ seen) {stop : String} {total : Nat}
    {r : Resolution} : ¬ Reaches m acceptEnums start stop total r := by
  intro hreach
  obtain ⟨before, after, hsplit⟩ := List.append_of_mem (List.mem_reverse.2 hlast)
  have hwalk := h.isWalk
  have hbegins := h.begins
  rw [hsplit, List.append_assoc, List.cons_append] at hwalk hbegins
  -- The walk first leads from its start to the name, and then from the name back to it.
  have hto : Relation.ReflTransGen (Leads m acceptEnums) start last := by
    cases before with
    | nil =>
        cases hbegins
        exact .refl
    | cons first before =>
        cases hbegins
        rw [List.append_cons] at hwalk
        exact (@leads_of_isWalk m acceptEnums _ last before hwalk.left_of_append).to_reflTransGen
  obtain ⟨_, hrest⟩ := reaches_of_leads hreach hto
  exact not_leads_self_of_reaches hrest (leads_of_isWalk hwalk.right_of_append)

/-- The end of a walk is the end of the walk from there. -/
theorem Reaches.stops {name stop : String} {total : Nat} {r : Resolution}
    (h : Reaches m acceptEnums name stop total r) : ∃ k, Stops m acceptEnums stop k r := by
  induction h with
  | stop stops => exact ⟨_, stops⟩
  | step _ _ ih => exact ih

/-- Every answer is the end of a walk or a walk that meets a name again. -/
theorem resolve_cases (m : TypeMap) (acceptEnums : Bool) (name : String) (depth : Nat) :
    (∃ stop total r, Reaches m acceptEnums name stop total r
      ∧ m.resolve acceptEnums name depth = .ok ⟨stop, depth + total, r⟩)
    ∨ ∃ seen last, m.resolve acceptEnums name depth = .error ⟨seen.reverse ++ [last]⟩
      ∧ Behind m acceptEnums name seen last ∧ last ∈ seen :=
  walk_eq (.begin name) rfl

/-- The answer where a walk comes to an end. -/
theorem resolve_of_reaches {name stop : String} {total : Nat} {r : Resolution}
    (h : Reaches m acceptEnums name stop total r) (depth : Nat) :
    m.resolve acceptEnums name depth = .ok ⟨stop, depth + total, r⟩ := by
  rcases resolve_cases m acceptEnums name depth with
    ⟨stop', total', r', h', heq⟩ | ⟨seen, last, -, hbehind, hlast⟩
  · obtain ⟨rfl, rfl, rfl⟩ := reaches_unique h h'
    exact heq
  · exact absurd h (hbehind.not_reaches hlast)

/-- The answer where a walk goes on: that for the next name, with the lists of the step on top of
it, and an error where that is one. -/
theorem resolve_of_follows {name next : String} {k : Nat} (h : Follows m acceptEnums name k next)
    (depth : Nat) :
    match m.resolve acceptEnums next depth with
    | .ok a => m.resolve acceptEnums name depth = .ok { a with arrayDepth := a.arrayDepth + k }
    | .error _ => ∃ c, m.resolve acceptEnums name depth = .error c := by
  rcases resolve_cases m acceptEnums next depth with
    ⟨stop, total, r, hreach, heq⟩ | ⟨seen, last, heq, hbehind, hlast⟩
  · rw [heq, resolve_of_reaches (.step h hreach) depth]
    show Except.ok _ = Except.ok _
    rw [Nat.add_assoc, Nat.add_comm total k]
  · rw [heq]
    rcases resolve_cases m acceptEnums name depth with
      ⟨stop, total, r, hreach, -⟩ | ⟨seen', last', heq', -, -⟩
    · -- A walk from the name that comes to an end would pass the next name.
      cases hreach with
      | stop stops => exact absurd h (not_follows_of_stops stops)
      | step follows rest =>
          obtain ⟨-, rfl⟩ := follows_unique h follows
          exact absurd rest (hbehind.not_reaches hlast)
    · exact ⟨_, heq'⟩

/-- What `resolve` answers, for every map, policy, name and depth. A walk that comes to an end
gives that end, with the lists of all of its nodes on top of the depth; and the end resolves to
itself. Any other walk gives the walk itself, up to the first name that is on it already: no name
is on it twice but the last. -/
theorem resolve_eq_walk (m : TypeMap) (acceptEnums : Bool) (name : String) (depth : Nat) :
    (∀ stop total r, Reaches m acceptEnums name stop total r →
      m.resolve acceptEnums name depth = .ok ⟨stop, depth + total, r⟩
      ∧ ∀ depth', ∃ total', m.resolve acceptEnums stop depth' = .ok ⟨stop, depth' + total', r⟩)
    ∧ ((¬ ∃ stop total r, Reaches m acceptEnums name stop total r) →
      ∃ seen last, m.resolve acceptEnums name depth = .error ⟨seen ++ [last]⟩
        ∧ (seen ++ [last]).head? = some name ∧ IsWalk m acceptEnums (seen ++ [last])
        ∧ seen.Nodup ∧ last ∈ seen) := by
  refine ⟨fun stop total r h => ⟨resolve_of_reaches h depth, fun depth' => ?_⟩, fun hnever => ?_⟩
  · obtain ⟨k, hstop⟩ := h.stops
    exact ⟨k, resolve_of_reaches (.stop hstop) depth'⟩
  · rcases resolve_cases m acceptEnums name depth with
      ⟨stop, total, r, h, -⟩ | ⟨seen, last, heq, hbehind, hlast⟩
    · exact absurd ⟨stop, total, r, h⟩ hnever
    · exact ⟨seen.reverse, last, heq, hbehind.begins, hbehind.isWalk,
        List.nodup_reverse.2 hbehind.nodup, List.mem_reverse.2 hlast⟩

end TypeCatalog.TypeMap
