import TypeCatalog.Proofs.Validation.Reading
import TypeCatalog.Validation.Build

/-!
# Values without names inside

Below the names that a document gives itself, a schema may be given an address or a version of its
own, and may refer to anything. `Json.IsPlain` is said of a value in which no object does the first
and all references are of some kind. Such a value is a schema in the seventh version wherever it is
read, and its references have the base of what stands around it; a pointer leads to the same part of
it at every base.

`Json.objects` lists all objects inside a value, `Json.children` the values right below it. The
library asks for `$id`, `$schema` and `$anchor` in `Draft.ownAddress?`, `Draft.detect` and
`Draft.anchors`; each gets one lemma for plain values. `Pointer.find?` and `Registry.find` go down
by segments, and `steps_of_hasPlainParts` is the induction on these.
-/

set_option autoImplicit false

namespace TypeCatalog

open Result

namespace Json

/-! ## Objects inside a value -/

mutual
/-- The objects inside a value, itself included. -/
def objects : Json → List (List (String × Json))
  | .object ms => ms :: memberObjects ms
  | .array xs => itemObjects xs
  | _ => []

def itemObjects : List Json → List (List (String × Json))
  | [] => []
  | x :: xs => objects x ++ itemObjects xs

def memberObjects : List (String × Json) → List (List (String × Json))
  | [] => []
  | (_, x) :: ms => objects x ++ memberObjects ms
end

/-- The text of a member. -/
def text? (ms : List (String × Json)) (name : String) : Option String :=
  (ms.lookup name).bind string?

/-- The objects of items are those of each item. -/
theorem itemObjects_eq (xs : List Json) : itemObjects xs = xs.flatMap objects := by
  induction xs with
  | nil => rfl
  | cons x xs ih => rw [itemObjects, ih, List.flatMap_cons]

/-- The objects of members are those of each member. -/
theorem memberObjects_eq (ms : List (String × Json)) :
    memberObjects ms = ms.flatMap fun m => objects m.2 := by
  induction ms with
  | nil => rfl
  | cons m ms ih => rw [memberObjects, ih, List.flatMap_cons]

/-- An object inside an array is inside one of its items. -/
theorem mem_objects_array {xs : List Json} {ms : List (String × Json)} :
    ms ∈ (Json.array xs).objects ↔ ∃ x ∈ xs, ms ∈ x.objects := by
  rw [objects, itemObjects_eq, List.mem_flatMap]

/-- An object inside an object is the object itself, or inside one of its members. -/
theorem mem_objects_object {ms ns : List (String × Json)} :
    ns ∈ (Json.object ms).objects ↔ ns = ms ∨ ∃ m ∈ ms, ns ∈ m.2.objects := by
  rw [objects, List.mem_cons, memberObjects_eq, List.mem_flatMap]

mutual
/-- There are no more objects inside a value than values. -/
theorem length_objects_le : ∀ v : Json, v.objects.length ≤ v.count
  | .object ms => by
      rw [objects, count, List.length_cons]
      exact Nat.succ_le_succ (length_memberObjects_le ms)
  | .array xs => (length_itemObjects_le xs).trans (Nat.le_succ _)
  | .null => Nat.zero_le _
  | .bool _ => Nat.zero_le _
  | .number _ => Nat.zero_le _
  | .string _ => Nat.zero_le _

/-- Items hold no more objects than values. -/
theorem length_itemObjects_le : ∀ xs : List Json, (itemObjects xs).length ≤ itemCount xs
  | [] => Nat.le_refl _
  | x :: xs => by
      rw [itemObjects, itemCount, List.length_append]
      exact Nat.add_le_add (length_objects_le x) (length_itemObjects_le xs)

/-- Nor do members. -/
theorem length_memberObjects_le :
    ∀ ms : List (String × Json), (memberObjects ms).length ≤ memberCount ms
  | [] => Nat.le_refl _
  | (_, x) :: ms => by
      rw [memberObjects, memberCount, List.length_append]
      exact Nat.add_le_add (length_objects_le x) (length_memberObjects_le ms)
end

/-- The parts of a value that a schema may hold: items and the values of members. -/
def children : Json → List Json
  | .object ms => ms.map (·.2)
  | .array xs => xs
  | _ => []

/-- What is inside a child is inside the value. -/
theorem objects_subset_of_mem_children {v x : Json} (hx : x ∈ v.children) :
    x.objects ⊆ v.objects := by
  intro ms hms
  cases v with
  | object ns =>
      obtain ⟨m, hm, rfl⟩ := List.mem_map.1 hx
      exact mem_objects_object.2 (.inr ⟨m, hm, hms⟩)
  | array xs => exact mem_objects_array.2 ⟨x, hx, hms⟩
  | _ => cases hx

/-! ## Plain values -/

/-- Whether the members of an object give it neither an address nor a version, and what they refer
to is of some kind. -/
structure IsPlainObject (refers : String → Prop) (ms : List (String × Json)) : Prop where
  address : text? ms "$id" = none
  version : text? ms "$schema" = none
  reference : ∀ s, text? ms "$ref" = some s → refers s

/-- Whether all objects inside a value are plain. -/
def IsPlain (refers : String → Prop) (v : Json) : Prop :=
  ∀ ms ∈ v.objects, IsPlainObject refers ms

/-- Whether a value refers to something of some kind, if it refers to anything, and all parts of it
are plain. -/
structure HasPlainParts (refers : String → Prop) (v : Json) : Prop where
  reference : ∀ ms, v = .object ms → ∀ s, text? ms "$ref" = some s → refers s
  children : ∀ x ∈ v.children, x.IsPlain refers

variable {refers : String → Prop} {v x : Json}

/-- The children of a plain value are plain. -/
theorem IsPlain.child (h : v.IsPlain refers) (hx : x ∈ v.children) : x.IsPlain refers :=
  fun ms hms => h ms (objects_subset_of_mem_children hx hms)

/-- So a plain value has plain parts. -/
theorem IsPlain.hasPlainParts (h : v.IsPlain refers) : v.HasPlainParts refers where
  reference := fun ms hms => (h ms (by rw [hms]; exact mem_objects_object.2 (.inl rfl))).reference
  children := fun _ hx => h.child hx

/-- The texts that the objects inside a value refer to. -/
def references (v : Json) : List String := v.objects.filterMap fun ms => text? ms "$ref"

/-- The text of a `$ref` is one of the references. -/
theorem mem_references {ms : List (String × Json)} {s : String} (hms : ms ∈ v.objects)
    (h : text? ms "$ref" = some s) : s ∈ v.references := List.mem_filterMap.2 ⟨ms, hms, h⟩

/-- Texts of one kind may be known to be of another kind. -/
theorem HasPlainParts.imp {P : String → Prop} (h : v.HasPlainParts refers)
    (hP : ∀ s, refers s → P s) : v.HasPlainParts P where
  reference := fun ms hms s hs => hP s (h.reference ms hms s hs)
  children := fun x hx ms hms => by
    obtain ⟨haddress, hversion, hreference⟩ := h.children x hx ms hms
    exact ⟨haddress, hversion, fun s hs => hP s (hreference s hs)⟩

/-- What holds of all texts that a value refers to may be known of its plain parts, too. -/
theorem HasPlainParts.and {P : String → Prop} (h : v.HasPlainParts refers)
    (hP : ∀ s ∈ v.references, P s) : v.HasPlainParts fun s => refers s ∧ P s where
  reference := fun ms hms s hs => by
    refine ⟨h.reference ms hms s hs, hP s (mem_references ?_ hs)⟩
    rw [hms]
    exact mem_objects_object.2 (.inl rfl)
  children := fun x hx ms hms => by
    obtain ⟨haddress, hversion, hreference⟩ := h.children x hx ms hms
    exact ⟨haddress, hversion, fun s hs => ⟨hreference s hs,
      hP s (mem_references (objects_subset_of_mem_children hx hms) hs)⟩⟩

/-- A plain value has no text as its `$id` or its `$schema`. -/
theorem IsPlain.text?_member? (h : v.IsPlain refers) :
    (v.member? "$id").bind string? = none ∧ (v.member? "$schema").bind string? = none := by
  cases v with
  | object ms =>
      have hms := h ms (mem_objects_object.2 (.inl rfl))
      exact ⟨hms.address, hms.version⟩
  | _ => exact ⟨rfl, rfl⟩

end Json

/-! ## Plain values as schemas -/

namespace Draft

variable {refers : String → Prop} {v : Json}

/-- A plain value is of the draft in which it is read. -/
theorem detect_of_isPlain (h : v.IsPlain refers) : Draft.draft7.detect v = .ok .draft7 := by
  unfold detect
  rw [h.text?_member?.2]

/-- It has no address of its own. -/
theorem ownAddress?_of_isPlain (h : v.IsPlain refers) : Draft.draft7.ownAddress? v = none := by
  unfold ownAddress? idText?
  dsimp only
  rw [if_neg (by decide)]
  split
  · rfl
  · rw [if_neg (by decide), h.text?_member?.1]
    rfl

/-- And it has no anchors. -/
theorem anchors_of_isPlain (h : v.IsPlain refers) : Draft.draft7.anchors v = [] := by
  unfold anchors
  dsimp only
  rw [if_neg (by decide), h.text?_member?.1]
  rfl

/-- The schemas directly inside a schema are parts of it, or parts of parts. -/
theorem isPlain_of_mem_subschemas (h : v.HasPlainParts refers) (d : Draft) {x : Json}
    (hx : x ∈ d.subschemas v) : x.IsPlain refers := by
  cases v with
  | object ms =>
      obtain ⟨m, hm, hx⟩ := List.mem_flatMap.1 hx
      have hchild := h.children m.2 (List.mem_map_of_mem hm)
      unfold schemasOf at hx
      split at hx
      · rwa [List.mem_singleton.1 hx]
      · next heq =>
          rw [List.mem_singleton.1 hx, ← heq]
          exact hchild
      · next xs _ heq => exact hchild.child (by rw [heq]; exact hx)
      · next xs _ heq => exact hchild.child (by rw [heq]; exact hx)
      · rwa [List.mem_singleton.1 hx]
      · next ns _ heq => exact hchild.child (by rw [heq]; exact hx)
      · cases hx
  | _ => cases hx

end Draft

/-- It is entered at the base of what stands around it. -/
theorem Site.enter_of_isPlain {refers : String → Prop} {v : Json} (h : v.IsPlain refers)
    (base : Uri) : Site.enter base ⟨.draft7, v⟩ = .ok base := by
  unfold enter
  dsimp only
  rw [Draft.ownAddress?_of_isPlain h]

/-- A place inside of it keeps its base. -/
theorem Reader.Place.inside_of_isPlain {refers : String → Prop} {v : Json} (h : v.IsPlain refers)
    {place : Reader.Place} (hdraft : place.draft = .draft7) : place.inside v = .ok place := by
  obtain ⟨base, draft, vocabularies⟩ := place
  cases hdraft
  unfold inside Draft.within
  dsimp only
  rw [Draft.detect_of_isPlain h, Site.enter_of_isPlain h]
  rfl

/-! ## Pointers -/

namespace Site

variable {refers : String → Prop}

/-- What a segment leads to is a part. -/
theorem child_of_part {pointer : String} {v : Json} {segment : List Char}
    {found : Option String × Json} (h : part pointer v segment = .ok found) :
    found.2 ∈ v.children := by
  unfold part at h
  split at h
  · split at h
    · cases h
    -- A segment of digits is an index into an array.
    · next xs _ i _ =>
        cases hx : xs[i]? with
        | none =>
            rw [hx] at h
            cases h
        | some x =>
            rw [hx] at h
            cases h
            exact List.mem_of_getElem? hx
  · next hnotArray =>
      dsimp only at h
      -- Any other segment is the name of a member.
      cases hx : v.member? (String.ofList (Pointer.unescaped segment)) with
      | none =>
          rw [hx] at h
          cases h
      | some x =>
          rw [hx] at h
          cases h
          cases v with
          | object ms => exact List.mem_map_of_mem (f := (·.2)) (Table.mem_of_lookup hx)
          | _ => cases hx

/-- A step to a plain part stays at its base. -/
theorem step_of_isPlain {pointer : String} {v : Json} {segment : List Char}
    {found : Option String × Json} (hfound : part pointer v segment = .ok found)
    (hplain : found.2.IsPlain refers) (base : Uri) (path : List (Option String)) :
    step pointer (⟨base, ⟨.draft7, v⟩⟩, path) segment
      = .ok (⟨base, ⟨.draft7, found.2⟩⟩, found.1 :: path) := by
  unfold step
  refine bind_eq_ok.2 ⟨found, hfound, ?_⟩
  dsimp only
  rw [enter_of_isPlain hplain]
  split <;> rfl

/-- Steps inside a schema with plain parts stay at its base, whatever the base is. -/
theorem steps_of_hasPlainParts {pointer : String} {base : Uri} {segments : List (List Char)}
    {v : Json} {path : List (Option String)} {reached : Site × List (Option String)}
    (hv : v.HasPlainParts refers)
    (h : segments.foldlM (step pointer) (⟨base, ⟨.draft7, v⟩⟩, path) = .ok reached) :
    ∃ w, reached.1 = ⟨base, ⟨.draft7, w⟩⟩ ∧ w.objects ⊆ v.objects
      ∧ (segments ≠ [] → w.IsPlain refers)
      ∧ ∀ base', segments.foldlM (step pointer) (⟨base', ⟨.draft7, v⟩⟩, path)
        = .ok (⟨base', ⟨.draft7, w⟩⟩, reached.2) := by
  -- Each step leads to a plain child, at the base that was there before.
  induction segments generalizing v path with
  | nil =>
      cases h
      exact ⟨v, rfl, List.Subset.refl _, fun hne => absurd rfl hne, fun _ => rfl⟩
  | cons segment segments ih =>
      rw [List.foldlM_cons] at h
      obtain ⟨next, hnext, h⟩ := bind_eq_ok.1 h
      obtain ⟨found, hfound, -⟩ := bind_eq_ok.1 hnext
      have hchild := child_of_part hfound
      have hplain : found.2.IsPlain refers := hv.children _ hchild
      have hstep (base' : Uri) := step_of_isPlain hfound hplain base' path
      cases (hstep base).symm.trans hnext
      obtain ⟨w, hw, hobjects, hwplain, hall⟩ := ih hplain.hasPlainParts h
      refine ⟨w, hw, fun ms hms => Json.objects_subset_of_mem_children hchild (hobjects hms),
        fun _ => ?_, fun base' => ?_⟩
      · -- The part itself is plain where no step is left, and what further steps lead to otherwise.
        cases segments with
        | nil =>
            cases h
            cases hw
            exact hplain
        | cons next rest => exact hwplain (List.cons_ne_nil _ _)
      · rw [List.foldlM_cons, hstep base']
        exact hall base'

/-- A pointer into a document leads to the same plain part at every base. -/
theorem walk_of_hasPlainParts {pointer : String} {base : Uri} {v : Json} {site : Site}
    (hv : v.HasPlainParts refers) (h : walk ⟨base, ⟨.draft7, v⟩⟩ pointer = .ok site) :
    ∃ w, site = ⟨base, ⟨.draft7, w⟩⟩ ∧ w.IsPlain refers ∧ w.objects ⊆ v.objects
      ∧ ∀ base', walk ⟨base', ⟨.draft7, v⟩⟩ pointer = .ok ⟨base', ⟨.draft7, w⟩⟩ := by
  unfold walk at h
  split at h
  · cases h
  · next text htext =>
      obtain ⟨reached, hreached, rfl⟩ := map_eq_ok.1 h
      obtain ⟨w, hw, hobjects, hplain, hall⟩ := steps_of_hasPlainParts hv hreached
      refine ⟨w, hw, hplain (List.splitOn_ne_nil _ _), hobjects, fun base' => ?_⟩
      unfold walk
      rw [htext]
      exact map_eq_ok.2 ⟨_, hall base', rfl⟩

end Site

namespace Pointer

/-- A step of a pointer leads to a child. -/
theorem mem_children_of_step? {v x : Json} {segment : List Char} (h : step? v segment = some x) :
    x ∈ v.children := by
  cases v with
  | object ms => exact List.mem_map_of_mem (f := (·.2)) (Table.mem_of_lookup h)
  | array xs =>
      unfold step? at h
      dsimp only at h
      split at h
      · cases h
      · obtain ⟨i, -, hx⟩ := Option.bind_eq_some_iff.1 h
        exact List.mem_of_getElem? hx
  | _ => cases h

variable {refers : String → Prop} {v x : Json}

/-- The steps of a pointer lead to the value itself or to a plain part. -/
theorem eq_or_isPlain_of_steps {segments : List (List Char)} (hv : v.HasPlainParts refers)
    (h : segments.foldlM step? v = some x) : x = v ∨ x.IsPlain refers := by
  induction segments generalizing v with
  | nil =>
      cases h
      exact .inl rfl
  | cons segment segments ih =>
      rw [List.foldlM_cons] at h
      obtain ⟨y, hy, h⟩ := Option.bind_eq_some_iff.1 h
      have hplain : y.IsPlain refers := hv.children y (mem_children_of_step? hy)
      rcases ih hplain.hasPlainParts h with rfl | hx
      · exact .inr hplain
      · exact .inr hx

/-- A pointer leads to the whole of a value, or to a plain part. -/
theorem eq_or_isPlain_of_find? {pointer : List Char} (hv : v.HasPlainParts refers)
    (h : find? v pointer = some x) : x = v ∨ x.IsPlain refers := by
  cases pointer with
  | nil =>
      cases h
      exact .inl rfl
  | cons c cs =>
      unfold find? at h
      dsimp only at h
      split at h
      · exact eq_or_isPlain_of_steps hv h
      · cases h

end Pointer

end TypeCatalog
