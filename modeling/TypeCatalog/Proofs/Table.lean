import Mathlib.Data.Finset.Card
import Mathlib.Data.List.Induction
import Mathlib.Data.List.Nodup
import TypeCatalog.Validation.Engine

/-!
# Tables

Members of objects, documents by their addresses and kinds by their names are all lists of pairs
that are read with `List.lookup`. The lemmas here say what entering a pair does to what is read.
-/

set_option autoImplicit false

namespace TypeCatalog.Table

variable {κ α β : Type} [BEq κ] [LawfulBEq κ]

/-- What is read of a table is one of its pairs. -/
theorem mem_of_lookup {key : κ} {a : α} {table : List (κ × α)}
    (h : table.lookup key = some a) : (key, a) ∈ table := by
  obtain ⟨l₁, l₂, rfl, -⟩ := List.lookup_eq_some_iff.1 h
  exact List.mem_append.2 (.inr (.head _))

/-- Where no two pairs have the same name, every pair is read at its name. -/
theorem lookup_of_mem {key : String} {a : α} {table : List (String × α)}
    (hnodup : (table.map Prod.fst).Nodup) (h : (key, a) ∈ table) : table.lookup key = some a := by
  induction table with
  | nil => cases h
  | cons entry table ih =>
      obtain ⟨k, b⟩ := entry
      rw [List.map_cons, List.nodup_cons] at hnodup
      cases h with
      | head => exact List.lookup_cons_self
      | tail _ h =>
          -- Another pair may not have the key, or the names would repeat, so the lookup passes the
          -- first one by.
          have hne : (key == k) = false := by
            refine beq_false_of_ne fun heq => hnodup.1 ?_
            rw [← heq]
            exact List.mem_map.2 ⟨_, h, rfl⟩
          rw [List.lookup_cons, hne]
          exact ih hnodup.2 h

/-- Where the keys of some items differ, an item is the first one that has its key. -/
theorem find?_of_mem (key : α → String) {xs : List α} (hnodup : (xs.map key).Nodup) {x : α}
    (hx : x ∈ xs) : xs.find? (fun y => decide (key y = key x)) = some x := by
  obtain ⟨front, rest, rfl⟩ := List.append_of_mem hx
  rw [List.map_append, List.map_cons] at hnodup
  have hfront : front.find? (fun y => decide (key y = key x)) = none := by
    refine List.find?_eq_none.2 fun y hy => ?_
    rw [decide_eq_true_eq]
    exact fun heq => List.disjoint_of_nodup_append hnodup (List.mem_map.2 ⟨y, hy, rfl⟩)
      (heq ▸ List.mem_cons_self)
  rw [List.find?_append, hfront, Option.none_or]
  exact List.find?_cons_of_pos (decide_eq_true rfl)

/-- A table is read at the first pair of a name. -/
theorem lookup_eq_map_find? {key : String} (table : List (String × α)) :
    table.lookup key = (table.find? fun p => decide (p.1 = key)).map (·.2) := by
  induction table with
  | nil => rfl
  | cons p table ih =>
      rw [List.lookup_cons, List.find?_cons]
      by_cases h : p.1 = key
      · rw [h, beq_self_eq_true, decide_eq_true rfl]
        rfl
      · rw [beq_false_of_ne (Ne.symm h), decide_eq_false h]
        exact ih

/-- A lookup fails exactly at the keys that no pair has. -/
theorem lookup_eq_none_iff_forall {key : κ} {table : List (κ × α)} :
    table.lookup key = none ↔ key ∉ table.map Prod.fst := by
  rw [List.lookup_eq_none_iff]
  constructor
  · intro h hmem
    obtain ⟨p, hp, rfl⟩ := List.mem_map.1 hmem
    simpa using h p hp
  · intro h p hp
    exact bne_iff_ne.2 fun heq => h (List.mem_map.2 ⟨p, hp, heq.symm⟩)

/-- A table of which some names are kept has what it had under a name that is kept, and nothing
under any other name. -/
theorem lookup_filter (p : κ → Bool) (table : List (κ × α)) (key : κ) :
    (table.filter fun entry => p entry.1).lookup key
      = if p key = true then table.lookup key else none := by
  induction table with
  | nil => exact (ite_self _).symm
  | cons entry table ih =>
      obtain ⟨other, a⟩ := entry
      rw [List.filter_cons, List.lookup_cons]
      by_cases hkey : key = other
      · subst hkey
        -- The pair at the front has the key: it is kept or left out, and so is every later one with
        -- it.
        by_cases hp : p key = true
        · rw [if_pos hp, if_pos hp, List.lookup_cons, beq_self_eq_true]
        · rw [if_neg hp, if_neg hp, ih, if_neg hp]
      · rw [beq_false_of_ne hkey]
        split
        · rw [List.lookup_cons, beq_false_of_ne hkey, ih]
        · exact ih

/-- A key that some pair has is read. -/
theorem exists_lookup_of_mem {key : κ} {table : List (κ × α)} (h : key ∈ table.map Prod.fst) :
    ∃ a, table.lookup key = some a :=
  Option.ne_none_iff_exists'.1 fun hnone => lookup_eq_none_iff_forall.1 hnone h

/-- What was entered under a name with `insert` is read there. -/
theorem lookup_insert_self (key : String) (a : α) (table : List (String × α)) :
    (insert key a table).lookup key = some a := by
  induction table with
  | nil => exact List.lookup_cons_self
  | cons entry table ih =>
      obtain ⟨k, b⟩ := entry
      unfold insert
      split
      · next h =>
          rw [h]
          exact List.lookup_cons_self
      · next h =>
          rw [List.lookup_cons, beq_false_of_ne (Ne.symm h)]
          exact ih

/-- Entering a pair with `insert` changes nothing under other names. -/
theorem lookup_insert_of_ne {key other : String} (a : α) (table : List (String × α))
    (hne : other ≠ key) : (insert key a table).lookup other = table.lookup other := by
  induction table with
  | nil => rw [insert, List.lookup_cons, beq_false_of_ne hne]
  | cons entry table ih =>
      obtain ⟨k, b⟩ := entry
      unfold insert
      split
      · next h =>
          rw [List.lookup_cons, List.lookup_cons, h, beq_false_of_ne hne]
      · rw [List.lookup_cons, List.lookup_cons, ih]

/-- Entering pairs one after the other leaves what is read at another name as it was. -/
theorem lookup_foldl_insert_of_notMem {key : β → String} {value : β → α} {xs : List β}
    {name : String} (table : List (String × α)) (h : ∀ x ∈ xs, key x ≠ name) :
    (xs.foldl (fun t x => insert (key x) (value x) t) table).lookup name = table.lookup name := by
  induction xs generalizing table with
  | nil => rfl
  | cons x xs ih =>
      rw [List.foldl_cons, ih _ fun y hy => h y (.tail _ hy)]
      exact lookup_insert_of_ne _ _ (h x (.head _)).symm

/-- Where no two pairs have the same name, entering them one after the other makes each be read. -/
theorem lookup_foldl_insert {key : β → String} {value : β → α} {xs : List β}
    (hnodup : (xs.map key).Nodup) (table : List (String × α)) {x : β} (hx : x ∈ xs) :
    (xs.foldl (fun t x => insert (key x) (value x) t) table).lookup (key x) = some (value x) := by
  induction xs generalizing table with
  | nil => cases hx
  | cons y ys ih =>
      rw [List.map_cons, List.nodup_cons] at hnodup
      cases hx with
      | head =>
          rw [List.foldl_cons, lookup_foldl_insert_of_notMem, lookup_insert_self]
          intro z hz heq
          exact hnodup.1 (List.mem_map.2 ⟨z, hz, heq⟩)
      | tail _ hx => exact ih hnodup.2 _ hx

/-- What is read after pairs were entered is one of them, or was there before. -/
theorem mem_of_lookup_foldl_insert {key : β → String} {value : β → α} {xs : List β}
    {table : List (String × α)} {name : String} {a : α}
    (h : (xs.foldl (fun t x => insert (key x) (value x) t) table).lookup name = some a) :
    (∃ x ∈ xs, key x = name ∧ value x = a) ∨ table.lookup name = some a := by
  induction xs generalizing table with
  | nil => exact .inr h
  | cons x xs ih =>
      rcases ih h with ⟨y, hy, hkey, hvalue⟩ | h
      · exact .inl ⟨y, .tail _ hy, hkey, hvalue⟩
      · by_cases hname : name = key x
        · rw [hname, lookup_insert_self] at h
          exact .inl ⟨x, .head _, hname.symm, Option.some.inj h⟩
        · rw [lookup_insert_of_ne _ _ hname] at h
          exact .inr h

/-- What is read at a name does not depend on the pairs of other names that are entered. -/
theorem lookup_foldl_insert_filter {key : β → String} {value : β → α} {p : β → Bool} {name : String}
    {xs : List β} (table : List (String × α)) (h : ∀ x ∈ xs, p x = false → key x ≠ name) :
    ((xs.filter p).foldl (fun t x => insert (key x) (value x) t) table).lookup name
      = (xs.foldl (fun t x => insert (key x) (value x) t) table).lookup name := by
  -- The induction is on the end of the list, since the last pair is entered last.
  induction xs using List.reverseRecOn with
  | nil => rfl
  | append_singleton xs x ih =>
      rw [List.forall_mem_append, List.forall_mem_singleton] at h
      rw [List.filter_append, List.foldl_append, List.foldl_append, List.foldl_cons, List.foldl_nil]
      cases hp : p x with
      | true =>
          rw [List.filter_cons_of_pos hp, List.filter_nil, List.foldl_cons, List.foldl_nil]
          by_cases hname : name = key x
          · rw [hname, lookup_insert_self, lookup_insert_self]
          · rw [lookup_insert_of_ne _ _ hname, lookup_insert_of_ne _ _ hname, ih h.1]
      | false =>
          rw [List.filter_cons_of_neg (by simp [hp]), List.filter_nil, List.foldl_nil,
            lookup_insert_of_ne _ _ (h.2 hp).symm, ih h.1]

/-- What is read at a name after pairs were entered is the last of them that has the name. -/
theorem lookup_foldl_insert_eq {key : β → String} {value : β → α} (xs : List β)
    (table : List (String × α)) (name : String) :
    (xs.foldl (fun t x => insert (key x) (value x) t) table).lookup name
      = ((xs.reverse.find? fun x => decide (key x = name)).map value).or (table.lookup name) := by
  induction xs using List.reverseRecOn with
  | nil => rfl
  | append_singleton xs x ih =>
      rw [List.foldl_concat, List.reverse_concat, List.find?_cons]
      by_cases h : key x = name
      · rw [h, lookup_insert_self, decide_eq_true rfl]
        rfl
      · rw [lookup_insert_of_ne _ _ (Ne.symm h), decide_eq_false h]
        exact ih

/-! ## Names -/

/-- A name that is there stays where it is, and another one comes last. -/
theorem map_fst_insert (key : String) (a : α) (table : List (String × α)) :
    (insert key a table).map Prod.fst
      = table.map Prod.fst ++ if key ∈ table.map Prod.fst then [] else [key] := by
  induction table with
  | nil => rfl
  | cons entry table ih =>
      obtain ⟨k, b⟩ := entry
      unfold insert
      split
      · next h => simp [h]
      · next h =>
          have hmem : key ∈ ((k, b) :: table).map Prod.fst ↔ key ∈ table.map Prod.fst :=
            List.mem_cons.trans (or_iff_right (Ne.symm h))
          rw [List.map_cons, ih, if_congr hmem rfl rfl]
          rfl

/-- The names of a table that is built by entering pairs differ, and are those of the pairs. -/
theorem names_foldl_insert (key : β → String) (value : β → α) (xs : List β) :
    ((xs.foldl (fun t x => insert (key x) (value x) t) []).map Prod.fst).Nodup
      ∧ ∀ name, name ∈ (xs.foldl (fun t x => insert (key x) (value x) t) []).map Prod.fst
        ↔ name ∈ xs.map key := by
  -- The last pair is entered last: its name is new, or it takes the place of an earlier pair.
  induction xs using List.reverseRecOn with
  | nil => exact ⟨.nil, fun _ => .rfl⟩
  | append_singleton xs x ih =>
      obtain ⟨hnodup, hmem⟩ := ih
      rw [List.foldl_concat, map_fst_insert, List.map_append]
      split
      · next h =>
          rw [List.append_nil]
          refine ⟨hnodup, fun name => ?_⟩
          rw [List.mem_append, List.map_singleton, List.mem_singleton, hmem]
          exact (or_iff_left_of_imp fun heq => heq ▸ (hmem _).1 h).symm
      · next h =>
          refine ⟨List.concat_eq_append ▸ hnodup.concat h, fun name => ?_⟩
          rw [List.mem_append, List.mem_append, hmem]
          rfl

/-- A table that is built by entering pairs is as long as the pairs have different names. -/
theorem length_foldl_insert {key : β → String} {value : β → α} (xs : List β) :
    (xs.foldl (fun t x => insert (key x) (value x) t) []).length = (xs.map key).toFinset.card := by
  obtain ⟨hnodup, hmem⟩ := names_foldl_insert key value xs
  rw [← List.length_map Prod.fst, ← List.toFinset_card_of_nodup hnodup]
  refine congrArg Finset.card (Finset.ext fun name => ?_)
  rw [List.mem_toFinset, List.mem_toFinset, hmem]

end TypeCatalog.Table
