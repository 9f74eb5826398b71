import TypeCatalog.Proofs.TypeMap.Circles
import TypeCatalog.Proofs.TypeMap.Construction

/-!
# Walks that accept enums and walks that do not

A generator that has enums of its own asks `resolve` to stop at them; one that has none asks for
what stands behind them. Both walks go along the same references, and the second one differs from
the first only at the root of an enum: there the first one stops, and the second one goes on to the
target.

So where the first walk runs into a circle or stops at anything else, the second one is the same
walk (`TypeMap.walk_false_of_true`). Where it stops at an enum, the second one ends as the walk from
the target of the enum does (`TypeMap.Reaches.exists_enum`).

What a builder makes of an enum refers to `string` (`Builder.target_of_isEnum`), where every walk
stops. That is why circles are looked for with one of the two policies only: in a map that a builder
made, no circle with enums accepted means no circle at all. `TypeMap.resolve_policies` states both
halves.

The two walks are `TypeMap.resolve true` and `TypeMap.resolve false`, and `stopAt?` is the only
place where they differ. The first comparison follows the recursion of `TypeMap.walk`, the second
one the walk of `Reaches` that comes to the enum.
-/

set_option autoImplicit false

namespace TypeCatalog

namespace TypeMap

variable {m : TypeMap} {acceptEnums : Bool}

/-! ## The walks side by side -/

/-- A reference stops a walk that accepts no enums if it stops one that accepts them, and not as an
enum. -/
theorem stopAt?_false (n : RefNode) : stopAt? false n = (stopAt? true n).filter (· ≠ .enum) := by
  unfold stopAt?
  cases n.isRoot <;> cases n.isScalar <;> cases n.isEnum <;> decide

/-- A walk that accepts enums and stops at none of them is the walk that accepts none; and if it
runs into a circle, both tell the same circle. -/
theorem walk_false_of_true (m : TypeMap) (steps : Nat) (visited : List String) (name : String)
    (depth : Nat) :
    match m.walk true steps visited name depth with
    | .error c => m.walk false steps visited name depth = .error c
    | .ok a => a.resolution ≠ .enum → m.walk false steps visited name depth = .ok a := by
  fun_induction m.walk true steps visited name depth with
  -- A name without a slash ends both walks at once.
  | case1 steps visited name depth bare =>
      intro _
      rw [walk, if_pos bare]
  | case2 steps visited name depth bare seen => rw [walk, if_neg bare, if_pos seen]
  | case3 steps visited name depth bare new none =>
      intro _
      rw [walk, if_neg bare, if_neg new, none]
  | case4 steps visited name depth bare new n object =>
      intro _
      rw [walk, if_neg bare, if_neg new, object]
  | case5 steps visited name depth bare new n ref r stop =>
      intro hr
      have hstop : stopAt? false n = some r := by
        rw [stopAt?_false, stop, Option.filter_some, if_pos (decide_eq_true hr)]
      rw [walk, if_neg bare, if_neg new, ref]
      dsimp only
      rw [hstop]
  -- No step is left, for both walks.
  | case6 visited name depth bare new n ref goesOn =>
      rw [walk, if_neg bare, if_neg new, ref]
      dsimp only
      rw [stopAt?_false, goesOn]
      rfl
  | case7 visited name depth bare new n ref goesOn steps ih =>
      have heq : m.walk false (steps + 1) visited name depth
          = m.walk false steps (name :: visited) n.target (depth + n.arrayCount) := by
        rw [walk, if_neg bare, if_neg new, ref]
        dsimp only
        rw [stopAt?_false, goesOn]
        rfl
      rw [heq]
      exact ih

/-- What leads on where enums are accepted leads on where they are not. -/
theorem Follows.of_true {name next : String} {k : Nat} (h : Follows m true name k next) :
    Follows m false name k next := by
  obtain ⟨hqualified, hfound, hgoes⟩ := h
  exact .ref hqualified hfound fun ⟨hroot, hsort⟩ =>
    hgoes ⟨hroot, hsort.imp_right fun henum => ⟨henum.1, rfl⟩⟩

/-- An answer is the end of a walk. -/
theorem reaches_of_resolve_eq_ok {name : String} {depth : Nat} {a : Assignment}
    (h : m.resolve acceptEnums name depth = .ok a) :
    ∃ total, Reaches m acceptEnums name a.typeName total a.resolution
      ∧ a.arrayDepth = depth + total := by
  rcases resolve_cases m acceptEnums name depth with
    ⟨_, total, _, hreaches, heq⟩ | ⟨_, _, heq, -, -⟩
  · rw [heq] at h
    cases h
    exact ⟨total, hreaches, rfl⟩
  · rw [heq] at h
    cases h

/-- Where a walk goes on, its answer is that of the next name with the lists of the step around it,
and an error where that is one. -/
theorem resolve_eq_of_follows {name next : String} {k : Nat}
    (h : Follows m acceptEnums name k next) (depth : Nat) :
    match m.resolve acceptEnums next (depth + k) with
    | .ok a => m.resolve acceptEnums name depth = .ok a
    | .error _ => ∃ c, m.resolve acceptEnums name depth = .error c := by
  cases hnext : m.resolve acceptEnums next (depth + k) with
  | ok a =>
      obtain ⟨total, hreaches, hdepth⟩ := reaches_of_resolve_eq_ok hnext
      have hname := resolve_of_reaches (.step h hreaches) depth
      rwa [← Nat.add_assoc, ← hdepth] at hname
  | error c =>
      cases hname : m.resolve acceptEnums name depth with
      | error c' => exact ⟨c', rfl⟩
      | ok a =>
          -- A walk from the name that comes to an end passes the next name.
          obtain ⟨_, hreaches, -⟩ := reaches_of_resolve_eq_ok hname
          obtain ⟨_, hrest⟩ := reaches_of_leads hreaches (.single ⟨k, h⟩)
          have hok := resolve_of_reaches hrest (depth + k)
          rw [hnext] at hok
          cases hok

/-- A walk that stops at an enum where enums are accepted ends as the walk from the target of the
enum does where they are not. -/
theorem Reaches.exists_enum {name stop : String} {total : Nat} {r : Resolution}
    (h : Reaches m true name stop total r) (hr : r = .enum) (depth : Nat) :
    ∃ n, m.ref? stop = some n ∧ n.isRoot = true ∧ n.isEnum = true ∧
      match m.resolve false n.target (depth + total) with
      | .ok b => m.resolve false name depth = .ok b
      | .error _ => ∃ c, m.resolve false name depth = .error c := by
  induction h generalizing depth with
  | stop stops =>
      cases hr
      cases stops with
      | enum qualified found root other enum _ =>
          -- Without enums accepted, the root of the enum leads on to its target.
          refine ⟨_, found, root, enum, resolve_eq_of_follows (.ref qualified found ?_) depth⟩
          rintro ⟨-, hscalar | ⟨-, haccepted⟩⟩
          · exact Bool.false_ne_true (other.symm.trans hscalar)
          · cases haccepted
  | @step name next stop k total r follows rest ih =>
      obtain ⟨n, hfound, hroot, henum, hend⟩ := ih hr (depth + k)
      refine ⟨n, hfound, hroot, henum, ?_⟩
      have hstep := resolve_eq_of_follows follows.of_true depth
      rw [Nat.add_assoc] at hend
      -- What the walk from the target answers decides, be it an end or a circle.
      cases htarget : m.resolve false n.target (depth + (k + total)) with
      | ok b =>
          rw [htarget] at hend
          rw [show m.resolve false next (depth + k) = .ok b from hend] at hstep
          exact hstep
      | error c =>
          rw [htarget] at hend
          obtain ⟨c', hnext⟩ : ∃ c', m.resolve false next (depth + k) = .error c' := hend
          rw [hnext] at hstep
          exact hstep

/-- The answers that do not accept enums, from those that do. A circle is the same circle, and an
answer other than an enum is the same answer. Instead of an enum the answer is that of the target
of the enum, under as many lists, if it has one, and a circle if it has none. -/
theorem resolve_false_of_true (m : TypeMap) (name : String) (depth : Nat) :
    match m.resolve true name depth with
    | .error c => m.resolve false name depth = .error c
    | .ok a =>
      if a.resolution = .enum then
        ∃ n, m.ref? a.typeName = some n ∧ n.isRoot = true ∧ n.isEnum = true ∧
          match m.resolve false n.target a.arrayDepth with
          | .ok b => m.resolve false name depth = .ok b
          | .error _ => ∃ c, m.resolve false name depth = .error c
      else m.resolve false name depth = .ok a := by
  have hsame : match m.resolve true name depth with
      | .error c => m.resolve false name depth = .error c
      | .ok a => a.resolution ≠ .enum → m.resolve false name depth = .ok a :=
    walk_false_of_true m _ [] name depth
  -- The walk with enums accepted runs into a circle, stops at an enum, or stops at anything else.
  cases htrue : m.resolve true name depth with
  | error c =>
      rw [htrue] at hsame
      exact hsame
  | ok a =>
      rw [htrue] at hsame
      dsimp only
      split_ifs with henum
      · obtain ⟨total, hreaches, hdepth⟩ := reaches_of_resolve_eq_ok htrue
        rw [hdepth]
        exact hreaches.exists_enum henum depth
      · exact hsame henum

end TypeMap

/-! ## Enums of a builder -/

namespace Builder

variable {b : Builder} {e : Entry} {schema : Json} {n : RefNode}

/-- A reference is entered as one of the shapes of a reference, or for want of a shape. -/
theorem exists_of_mem_refs_nodes (h : n ∈ (b.nodes e schema).refs) :
    ∃ e' schema', b.refOf? e' schema' = some n ∨ n = e'.ref "object" true := by
  induction e, schema using induction_of_shapes b with
  | reference e schema n' href =>
      rw [nodes_of_refOf? href] at h
      exact ⟨e, schema, .inl (List.mem_singleton.1 h ▸ href)⟩
  | list e schema items href hitems ih =>
      rw [nodes_of_itemSchema? href hitems] at h
      exact ih h
  | closed e schema ps href hitems hclosed ih =>
      rw [nodes_eq_of_closedProperties? href hitems hclosed] at h
      have hinner : (TypeMap.concat _).Has (.ref n) := (List.append_nil _).subst h
      obtain ⟨_, hmap, hn⟩ := TypeMap.has_concat.1 hinner
      obtain ⟨member, hmember, rfl⟩ := List.mem_map.1 hmap
      exact ih member hmember hn
  | other e schema href hitems hclosed =>
      rw [nodes_of_other href hitems hclosed] at h
      exact ⟨e, schema, .inr (List.mem_singleton.1 h)⟩

/-- The node of an enum refers to texts. -/
theorem target_of_isEnum (h : n ∈ (b.nodes e schema).refs) (henum : n.isEnum = true) :
    n.target = "string" := by
  obtain ⟨e', schema', href | rfl⟩ := exists_of_mem_refs_nodes h
  · unfold refOf? at href
    split at href
    · cases href
      rfl
    · -- No other shape makes an enum.
      split at href
      · cases href
        cases henum
      · split at href
        · cases href
          cases henum
        · obtain ⟨t, -, href⟩ := Option.bind_eq_some_iff.1 href
          split at href
          · cases href
            cases henum
          · cases href
  · cases henum

/-- The references of a definition are those of a schema that is entered. -/
theorem exists_nodes_of_mem_definitionNodes {d : Definition} {emitted : Emitted}
    (h : n ∈ (b.definitionNodes d emitted).refs) : ∃ e schema, n ∈ (b.nodes e schema).refs := by
  have hdocument {examples : List Json} {document : Document}
      (hn : n ∈ (b.documentNodes examples document).refs) :
      ∃ e schema, n ∈ (b.nodes e schema).refs := by
    unfold documentNodes at hn
    split at hn
    · exact ⟨_, _, hn⟩
    · cases hn
  rcases List.mem_append.1 h with h | h
  · exact hdocument h
  · have hvariants : (TypeMap.concat (emitted.variants.map (b.documentNodes []))).Has (.ref n) := h
    obtain ⟨_, hmap, hn⟩ := TypeMap.has_concat.1 hvariants
    obtain ⟨document, -, rfl⟩ := List.mem_map.1 hmap
    exact hdocument hn

end Builder

namespace Construction

/-- A call enters the references of schemas. -/
theorem exists_nodes_of_mem_apply {c : Construction} {call : Call} {n : RefNode}
    (h : n ∈ (c.apply call).map.refs) :
    n ∈ c.map.refs ∨ ∃ b e schema, n ∈ (Builder.nodes b e schema).refs := by
  cases call with
  | withEnums declared =>
      rw [apply, withEnums_eq] at h
      exact .inl h
  | addDefinition d emitted =>
      rw [apply, addDefinition_eq] at h
      refine (List.mem_append.1 h).imp_right fun h => ?_
      exact ⟨c.builder, Builder.exists_nodes_of_mem_definitionNodes h⟩
  | addSchema e schema =>
      rw [apply, addSchema_eq] at h
      exact (List.mem_append.1 h).imp_right fun h => ⟨c.builder, e, schema, h⟩

/-- All references that any calls enter into a new map are those of schemas. -/
theorem exists_nodes_of_mem_run {domain : String} {calls : List Call} {n : RefNode}
    (h : n ∈ ((new domain).run calls).map.refs) :
    ∃ b e schema, n ∈ (Builder.nodes b e schema).refs := by
  have hrun (c : Construction) (hn : n ∈ (c.run calls).map.refs) :
      n ∈ c.map.refs ∨ ∃ b e schema, n ∈ (Builder.nodes b e schema).refs := by
    clear h
    unfold run at hn
    induction calls generalizing c with
    | nil => exact .inl hn
    | cons call calls ih =>
        rcases ih (c.apply call) hn with hn | hn
        · exact exists_nodes_of_mem_apply hn
        · exact .inr hn
  exact (hrun _ h).resolve_left List.not_mem_nil

end Construction

namespace TypeMap

section

variable {m : TypeMap} (henums : ∀ n ∈ m.refs, n.isEnum = true → n.target = "string")
include henums

/-- Where every enum refers to texts, a walk that passes an enum comes to `string`. -/
theorem resolve_false_of_enum {name : String} {depth : Nat} {a : Assignment}
    (h : m.resolve true name depth = .ok a) (ha : a.resolution = .enum) :
    m.resolve false name depth = .ok ⟨"string", a.arrayDepth, .primitive⟩ := by
  have hfalse := resolve_false_of_true m name depth
  rw [h] at hfalse
  dsimp only at hfalse
  rw [if_pos ha] at hfalse
  obtain ⟨n, hfound, -, henum, hend⟩ := hfalse
  rw [henums n (List.mem_of_find?_eq_some hfound) henum,
    resolve_of_reaches (.stop (.primitive (by decide))) a.arrayDepth] at hend
  exact hend

/-- Where moreover no circle is reported, every name resolves, be it in the map or not, and whether
enums are accepted or not. -/
theorem exists_resolve_of_cycles_eq_nil (hcycles : m.cycles = []) (acceptEnums : Bool)
    (name : String) (depth : Nat) : ∃ a, m.resolve acceptEnums name depth = .ok a := by
  have htrue : ∃ a, m.resolve true name depth = .ok a := by
    by_cases hname : name ∈ m.typeNames
    · obtain ⟨a, ha⟩ := cycles_eq_nil_iff.1 hcycles name hname
      obtain ⟨total, hreaches, -⟩ := reaches_of_resolve_eq_ok ha
      exact ⟨_, resolve_of_reaches hreaches depth⟩
    -- A name without a node ends the walk at once.
    · obtain ⟨href, hobject⟩ := find?_eq_none_of_notMem hname
      cases hqualified : isQualified name with
      | true => exact ⟨_, resolve_of_reaches (.stop (.unknown hqualified href hobject)) depth⟩
      | false => exact ⟨_, resolve_of_reaches (.stop (.primitive hqualified)) depth⟩
  cases acceptEnums with
  | true => exact htrue
  | false =>
      obtain ⟨a, ha⟩ := htrue
      by_cases henum : a.resolution = .enum
      · exact ⟨_, resolve_false_of_enum henums ha henum⟩
      · have hfalse := resolve_false_of_true m name depth
        rw [ha] at hfalse
        exact ⟨a, (if_neg henum).mp hfalse⟩

end

/-- What the policy for enums changes, for every map, name and depth: nothing where the walk that
accepts enums runs into a circle or stops at anything but an enum; and where it stops at an enum,
the other walk ends as the one from the target of the enum, under as many lists, or in a circle if
that one has no end. In a map that any calls of a builder made it ends at `string` there; so if no
circle is reported, which is looked for with enums accepted, no walk at all runs into one. -/
theorem resolve_policies :
    (∀ (m : TypeMap) (name : String) (depth : Nat),
      match m.resolve true name depth with
      | .error c => m.resolve false name depth = .error c
      | .ok a =>
        if a.resolution = .enum then
          ∃ n, m.ref? a.typeName = some n ∧ n.isRoot = true ∧ n.isEnum = true ∧
            match m.resolve false n.target a.arrayDepth with
            | .ok b => m.resolve false name depth = .ok b
            | .error _ => ∃ c, m.resolve false name depth = .error c
        else m.resolve false name depth = .ok a)
    ∧ ∀ (domain : String) (calls : List Construction.Call),
      let m := ((Construction.new domain).run calls).map
      (∀ name depth a, m.resolve true name depth = .ok a → a.resolution = .enum →
        m.resolve false name depth = .ok ⟨"string", a.arrayDepth, .primitive⟩)
      ∧ (m.cycles = [] → ∀ acceptEnums name depth, ∃ a,
        m.resolve acceptEnums name depth = .ok a) := by
  refine ⟨resolve_false_of_true, fun domain calls => ?_⟩
  intro m
  have henums : ∀ n ∈ m.refs, n.isEnum = true → n.target = "string" := by
    intro n hn henum
    obtain ⟨b, e, schema, hnodes⟩ := Construction.exists_nodes_of_mem_run hn
    exact Builder.target_of_isEnum hnodes henum
  refine ⟨fun name depth a h ha => resolve_false_of_enum henums h ha, fun hcycles => ?_⟩
  exact exists_resolve_of_cycles_eq_nil henums hcycles

end TypeMap

end TypeCatalog
