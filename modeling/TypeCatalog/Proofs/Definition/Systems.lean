import Mathlib.Data.String.Basic
import TypeCatalog.Definition.Store
import TypeCatalog.Proofs.Table

/-!
# Systems of a store

`Store.bySystem` goes through the definitions of a store and enters each into the group of its
system, or into a group of its own in front of the first group whose system comes later. A
definition that names no system is passed over.

`Store.Groups` says what groups of definitions have to be: none is lost, taken twice or put with the
wrong ones, and the definitions of a group keep their order. Entering a definition keeps it
(`Groups.insert`), and so does passing one over (`Groups.skip`). `Store.groups_ofAdditions` says it
of every store, however its definitions were added.
-/

set_option autoImplicit false

/-!
## The order of bytes

Texts are compared character by character, and their UTF-8 bytes byte by byte. The two orders are
the same (`Utf8.bytes_lt_iff`): a greater character has more bytes, or as many of which the first
that differs is greater.
-/

namespace TypeCatalog.Text.Utf8

/-- The bytes of a text. -/
def bytes (s : String) : List UInt8 := s.toUTF8.data.toList

/-- The bytes of a text are those of its characters, one behind the other. -/
theorem bytes_eq (s : String) : bytes s = s.toList.flatMap String.utf8EncodeChar := by
  rw [bytes, String.toUTF8_eq_toByteArray, ← String.utf8Encode_toList, List.utf8Encode,
    List.toList_data_toByteArray]

/-- Bytes are compared as the numbers below 256 that they hold, and the first difference decides. -/
theorem ofNat_cons_lt_iff {m n : Nat} (x y : List UInt8) (hm : m < 256) (hn : n < 256) :
    UInt8.ofNat m :: x < UInt8.ofNat n :: y ↔ m < n ∨ m = n ∧ x < y := by
  rw [List.cons_lt_cons_iff, UInt8.lt_iff_toNat_lt, ← UInt8.toNat_inj,
    UInt8.toNat_ofNat_of_lt' hm, UInt8.toNat_ofNat_of_lt' hn]

/-- The bytes of a character decide, whatever follows. -/
theorem utf8EncodeChar_append_lt {c d : Char} (h : c < d) (x y : List UInt8) :
    String.utf8EncodeChar c ++ x < String.utf8EncodeChar d ++ y := by
  have hcd : c.val.toNat < d.val.toNat := h
  have hd : d.val.toNat < 0x110000 := d.valid.elim (·.trans (by decide)) (·.2)
  unfold String.utf8EncodeChar
  generalize c.val.toNat = m at *
  generalize d.val.toNat = n at *
  -- The bytes hold the digits of the number to the base 64, the leading one first.
  have h₁ : m / 64 ≤ n / 64 := Nat.div_le_div_right hcd.le
  have h₂ : m / 4096 ≤ n / 4096 := Nat.div_le_div_right hcd.le
  have h₃ : m / 262144 ≤ n / 262144 := Nat.div_le_div_right hcd.le
  dsimp only
  split_ifs <;> try omega
  all_goals
    simp only [List.cons_append, List.nil_append]
    repeat rw [ofNat_cons_lt_iff _ _ (by omega) (by omega)]
    rcases h₁.lt_or_eq with h₁ | h₁ <;> rcases h₂.lt_or_eq with h₂ | h₂ <;>
      rcases h₃.lt_or_eq with h₃ | h₃ <;> omega

/-- Texts that are in order by their characters are in order by their bytes: up to the first
character that differs they have the same bytes. -/
theorem flatMap_utf8EncodeChar_lt {cs ds : List Char} (h : cs < ds) :
    cs.flatMap String.utf8EncodeChar < ds.flatMap String.utf8EncodeChar := by
  induction cs generalizing ds with
  | nil =>
      cases ds with
      | nil => exact absurd h (List.lt_irrefl _)
      | cons d ds =>
          -- Every character has a byte, so a longer text has more.
          obtain ⟨b, bs, hb⟩ := List.exists_cons_of_ne_nil (String.utf8EncodeChar_ne_nil (c := d))
          rw [List.flatMap_cons, hb]
          exact List.nil_lt_cons _ _
  | cons c cs ih =>
      cases ds with
      | nil => exact absurd h (List.not_lt_nil _)
      | cons d ds =>
          rw [List.flatMap_cons, List.flatMap_cons]
          rcases List.cons_lt_cons_iff.1 h with hcd | ⟨rfl, hrest⟩
          · exact utf8EncodeChar_append_lt hcd _ _
          · exact List.append_left_lt (ih hrest)

/-- The order of texts is the order of their bytes. -/
theorem bytes_lt_iff {s t : String} : bytes s < bytes t ↔ s < t := by
  have hbytes {s t : String} (h : s < t) : bytes s < bytes t := by
    rw [bytes_eq, bytes_eq]
    exact flatMap_utf8EncodeChar_lt h
  refine ⟨fun h => ?_, hbytes⟩
  rcases lt_trichotomy s t with hlt | rfl | hgt
  · exact hlt
  · exact absurd h (List.lt_irrefl _)
  · exact absurd (hbytes hgt) (List.lt_asymm h)

end TypeCatalog.Text.Utf8

namespace TypeCatalog.Store

open Text

/-! ## Groups in order -/

section

variable {α : Type} {key : String} {a : α} {groups : List (String × List α)}

/-- The keys after entering something are those before and the key of what was entered. -/
theorem mem_keys_insertGrouped {k : String} :
    k ∈ (insertGrouped key a groups).map Prod.fst ↔ k = key ∨ k ∈ groups.map Prod.fst := by
  induction groups with
  | nil => simp [insertGrouped]
  | cons g groups ih =>
      obtain ⟨l, as⟩ := g
      unfold insertGrouped
      split
      · rw [List.map_cons, List.mem_cons]
      · split
        · next h => rw [h, List.map_cons, List.map_cons, List.mem_cons, or_self_left]
        · rw [List.map_cons, List.map_cons, List.mem_cons, List.mem_cons, ih, or_left_comm]

/-- Groups stay in the order of their keys. -/
theorem pairwise_insertGrouped (h : (groups.map Prod.fst).Pairwise (· < ·)) :
    ((insertGrouped key a groups).map Prod.fst).Pairwise (· < ·) := by
  induction groups with
  | nil => simp [insertGrouped]
  | cons g groups ih =>
      obtain ⟨l, as⟩ := g
      obtain ⟨hfirst, hrest⟩ := List.pairwise_cons.1 h
      unfold insertGrouped
      split
      · next hlt =>
          -- The key comes before the first one, and so before all of them.
          refine List.pairwise_cons.2 ⟨fun k hk => ?_, h⟩
          rcases List.mem_cons.1 hk with rfl | hk
          · exact hlt
          · exact hlt.trans (hfirst k hk)
      · next hnlt =>
          split
          · exact h
          · next hne =>
              -- The key goes behind the first one, and differs from it.
              refine List.pairwise_cons.2 ⟨fun k hk => ?_, ih hrest⟩
              rcases mem_keys_insertGrouped.1 hk with rfl | hk
              · exact lt_of_le_of_ne (not_lt.1 hnlt) (Ne.symm hne)
              · exact hfirst k hk

/-- The groups together gain what is entered. -/
theorem flatMap_insertGrouped_perm :
    ((insertGrouped key a groups).flatMap Prod.snd).Perm (groups.flatMap Prod.snd ++ [a]) := by
  induction groups with
  | nil => exact .refl _
  | cons g groups ih =>
      obtain ⟨l, as⟩ := g
      unfold insertGrouped
      split
      · exact (List.perm_append_singleton a _).symm
      · split
        · rw [List.flatMap_cons, List.flatMap_cons, List.append_assoc, List.append_assoc]
          exact List.perm_append_comm.append_left _
        · rw [List.flatMap_cons, List.flatMap_cons, List.append_assoc]
          exact ih.append_left _

/-- What is entered comes last in the group of its key, and the other groups stay as they are. -/
theorem mem_insertGrouped (h : (groups.map Prod.fst).Pairwise (· < ·)) {g : String × List α} :
    g ∈ insertGrouped key a groups
      ↔ g = (key, (groups.lookup key).getD [] ++ [a]) ∨ g.1 ≠ key ∧ g ∈ groups := by
  induction groups with
  | nil => simp [insertGrouped]
  | cons g' groups ih =>
      obtain ⟨l, as⟩ := g'
      obtain ⟨hfirst, hrest⟩ := List.pairwise_cons.1 h
      have hbehind {g : String × List α} (hg : g ∈ groups) : l < g.1 :=
        hfirst g.1 (List.mem_map_of_mem hg)
      unfold insertGrouped
      split
      · next hlt =>
          -- No group has the key, since all of them come later.
          have hlater : ∀ g ∈ (l, as) :: groups, g.1 ≠ key := by
            intro g hg
            rcases List.mem_cons.1 hg with rfl | hg
            · exact hlt.ne'
            · exact (hlt.trans (hbehind hg)).ne'
          have hnone : ((l, as) :: groups).lookup key = none := by
            refine Table.lookup_eq_none_iff_forall.2 fun hmem => ?_
            obtain ⟨g, hg, hkey⟩ := List.mem_map.1 hmem
            exact hlater g hg hkey
          rw [hnone, List.mem_cons]
          exact or_congr_right ⟨fun hg => ⟨hlater g hg, hg⟩, And.right⟩
      · split
        -- The group of the key is the first one.
        · next heq =>
            subst heq
            rw [List.lookup_cons_self, List.mem_cons]
            refine or_congr_right ⟨fun hg => ⟨(hbehind hg).ne', .tail _ hg⟩, fun hg => ?_⟩
            exact (List.mem_cons.1 hg.2).resolve_left fun heq => hg.1 (heq ▸ rfl)
        -- The group of the key is among the others.
        · next hne =>
            rw [List.mem_cons, ih hrest, List.lookup_cons, beq_false_of_ne hne, List.mem_cons]
            constructor
            · rintro (rfl | hg | hg)
              · exact .inr ⟨Ne.symm hne, .inl rfl⟩
              · exact .inl hg
              · exact .inr ⟨hg.1, .inr hg.2⟩
            · rintro (hg | ⟨hkey, rfl | hg⟩)
              · exact .inr (.inl hg)
              · exact .inl rfl
              · exact .inr (.inr ⟨hkey, hg⟩)

end

/-! ## Groups of definitions -/

/-- Whether groups are those of some definitions by their systems. -/
structure Groups (groups : List (String × List RawDefinition)) (entries : List RawDefinition) :
    Prop where
  /-- The systems stand in the order of their bytes, and none of them twice. -/
  ordered : (groups.map Prod.fst).Pairwise fun s t => Utf8.bytes s < Utf8.bytes t
  nonempty : ∀ g ∈ groups, g.2 ≠ []
  /-- A group holds all definitions of its system, in their order. -/
  members : ∀ g ∈ groups, g.2 = entries.filter (·.system? = some g.1)
  /-- Each definition that names a system is kept once, and no other is. -/
  kept : (groups.flatMap Prod.snd).Perm (entries.filter (·.system?.isSome))

namespace Groups

variable {groups : List (String × List RawDefinition)} {entries : List RawDefinition}
  {d : RawDefinition} {system : String}

/-- The keys of groups are in order, and so they differ. -/
theorem sorted (h : Groups groups entries) : (groups.map Prod.fst).Pairwise (· < ·) :=
  h.ordered.imp Utf8.bytes_lt_iff.1

/-- A system that a definition names has a group. -/
theorem mem_systems (h : Groups groups entries) (hd : d ∈ entries)
    (hsystem : d.system? = some system) : system ∈ groups.map Prod.fst := by
  have hmem : d ∈ entries.filter (·.system?.isSome) := List.mem_filter.2 ⟨hd, by rw [hsystem]; rfl⟩
  obtain ⟨g, hg, hdg⟩ := List.mem_flatMap.1 (h.kept.mem_iff.2 hmem)
  rw [h.members g hg, List.mem_filter, decide_eq_true_eq, hsystem] at hdg
  exact List.mem_map.2 ⟨g, hg, (Option.some.inj hdg.2).symm⟩

/-- What is read at a system are its definitions. -/
theorem lookup_getD (h : Groups groups entries) :
    (groups.lookup system).getD [] = entries.filter (·.system? = some system) := by
  cases hlookup : groups.lookup system with
  | some ds => exact h.members _ (Table.mem_of_lookup hlookup)
  | none =>
      refine (List.filter_eq_nil_iff.2 fun d hd hsystem => ?_).symm
      exact Table.lookup_eq_none_iff_forall.1 hlookup
        (h.mem_systems hd (of_decide_eq_true hsystem))

/-- No definitions fall into no groups. -/
theorem nil : Groups [] [] := ⟨.nil, nofun, nofun, .nil⟩

/-- A definition that is kept comes last among those that are. -/
theorem filter_concat_of_pos {p : RawDefinition → Bool} (hp : p d = true) :
    (entries ++ [d]).filter p = entries.filter p ++ [d] := by
  rw [List.filter_append, List.filter_cons_of_pos hp, List.filter_nil]

/-- A definition that is not kept changes nothing. -/
theorem filter_concat_of_neg {p : RawDefinition → Bool} (hp : p d = false) :
    (entries ++ [d]).filter p = entries.filter p := by
  rw [List.filter_append, List.filter_cons_of_neg (by simp [hp]), List.filter_nil, List.append_nil]

/-- A definition that names a system goes into its group. -/
theorem insert (h : Groups groups entries) (hsystem : d.system? = some system) :
    Groups (insertGrouped system d groups) (entries ++ [d]) := by
  have hmem {g : String × List RawDefinition} : g ∈ insertGrouped system d groups
      ↔ g = (system, (groups.lookup system).getD [] ++ [d]) ∨ g.1 ≠ system ∧ g ∈ groups :=
    mem_insertGrouped h.sorted
  refine ⟨(pairwise_insertGrouped h.sorted).imp Utf8.bytes_lt_iff.2, fun g hg => ?_,
    fun g hg => ?_, ?_⟩
  -- A group is the one of the system, which gets the definition, or another one, which stays.
  · rcases hmem.1 hg with rfl | ⟨-, hg⟩
    · exact List.append_ne_nil_of_right_ne_nil _ (List.cons_ne_nil d [])
    · exact h.nonempty g hg
  · rcases hmem.1 hg with rfl | ⟨hne, hg⟩
    · rw [filter_concat_of_pos (decide_eq_true hsystem), h.lookup_getD]
    · have hother : d.system? ≠ some g.1 := fun heq =>
        hne (Option.some.inj (heq.symm.trans hsystem))
      rw [filter_concat_of_neg (decide_eq_false hother)]
      exact h.members g hg
  · rw [filter_concat_of_pos (by rw [hsystem]; rfl)]
    exact flatMap_insertGrouped_perm.trans (h.kept.append_right _)

/-- A definition that names no system goes into no group. -/
theorem skip (h : Groups groups entries) (hsystem : d.system? = none) :
    Groups groups (entries ++ [d]) := by
  refine ⟨h.ordered, h.nonempty, fun g hg => ?_, ?_⟩
  · rw [filter_concat_of_neg (by simp [hsystem])]
    exact h.members g hg
  · rw [filter_concat_of_neg (by simp [hsystem])]
    exact h.kept

end Groups

/-- What `Store.bySystem` gives are the groups of all entries, by induction on the entries from the
front. -/
theorem groups_bySystem (s : Store) : Groups s.bySystem s.entries := by
  obtain ⟨entries⟩ := s
  -- The fold is taken apart at its last step, since a store grows at its end.
  induction entries using List.reverseRecOn with
  | nil => exact .nil
  | append_singleton entries d ih =>
      cases hsystem : d.system? with
      | some system =>
          have hstep : (Store.mk (entries ++ [d])).bySystem
              = insertGrouped system d (Store.mk entries).bySystem := by
            rw [bySystem, List.foldl_concat, hsystem]
            rfl
          rw [hstep]
          exact ih.insert hsystem
      | none =>
          have hstep : (Store.mk (entries ++ [d])).bySystem = (Store.mk entries).bySystem := by
            rw [bySystem, List.foldl_concat, hsystem]
            rfl
          rw [hstep]
          exact ih.skip hsystem

/-! ## Stores that are built -/

/-- A way to add one definition to a store. -/
inductive Addition where
  /-- What was parsed, of unknown origin. -/
  | parsed (v : Json)
  /-- What was parsed, with its source. -/
  | loaded (source : String) (v : Json)
  /-- A definition, by its written form. -/
  | typed (d : Definition)

/-- The raw definition that is added. -/
def Addition.entry : Addition → RawDefinition
  | parsed v => ⟨none, v⟩
  | loaded source v => ⟨some source, v⟩
  | typed d => ⟨none, d.toJson⟩

/-- The store with one more definition. -/
def apply (s : Store) : Addition → Store
  | .parsed v => s.add v
  | .loaded source v => s.addFrom source v
  | .typed d => s.addDefinition d

/-- The store that some additions build. -/
def ofAdditions (additions : List Addition) : Store := additions.foldl apply empty

/-- An addition puts one entry behind the others. -/
theorem entries_apply (s : Store) (addition : Addition) :
    (s.apply addition).entries = s.entries ++ [addition.entry] := by
  cases addition <;> rfl

/-- A store holds what was added, in the order of the additions. -/
theorem entries_ofAdditions (additions : List Addition) :
    (ofAdditions additions).entries = additions.map (·.entry) := by
  induction additions using List.reverseRecOn with
  | nil => rfl
  | append_singleton additions addition ih =>
      rw [ofAdditions, List.foldl_concat, entries_apply, List.map_append]
      exact congrArg (· ++ [addition.entry]) ih

/-- However a store was built, its groups are those of the definitions that were added: the systems
stand in the order of their bytes, each with all its definitions in the order of the additions, and
each definition with a system is in one group. The systems of the store are those of the groups,
which are those that are named. -/
theorem groups_ofAdditions (additions : List Addition) :
    Groups (ofAdditions additions).bySystem (additions.map (·.entry))
      ∧ (ofAdditions additions).systems = (ofAdditions additions).bySystem.map Prod.fst
      ∧ ∀ system, system ∈ (ofAdditions additions).systems
        ↔ ∃ addition ∈ additions, addition.entry.system? = some system := by
  have hgroups : Groups (ofAdditions additions).bySystem (additions.map (·.entry)) :=
    entries_ofAdditions additions ▸ groups_bySystem (ofAdditions additions)
  refine ⟨hgroups, rfl, fun system => ⟨fun hmem => ?_, ?_⟩⟩
  · obtain ⟨g, hg, rfl⟩ := List.mem_map.1 hmem
    obtain ⟨d, hd⟩ := List.exists_mem_of_ne_nil _ (hgroups.nonempty g hg)
    rw [hgroups.members g hg, List.mem_filter, decide_eq_true_eq] at hd
    obtain ⟨addition, haddition, rfl⟩ := List.mem_map.1 hd.1
    exact ⟨addition, haddition, hd.2⟩
  · rintro ⟨addition, haddition, hsystem⟩
    exact hgroups.mem_systems (List.mem_map_of_mem haddition) hsystem

end TypeCatalog.Store
