import TypeCatalog.Validation.Validator

/-!
# Places inside values

A value that stands inside another one is found by steps: to the member of a name, and to the item
of an index. `Json.at?` follows such steps, and `Json.placeText` writes them down the way violations
tell a place, as in `properties[2].name`.

What stands inside of a value has fewer levels than the value (`Json.levels_lt_of_mem_items`,
`Json.levels_lt_of_mem_members`). So levels bound how deep a recursion into a value can go.
-/

set_option autoImplicit false

namespace TypeCatalog.Json

/-- One step into a value: to a member of an object, or to an item of a list. -/
inductive Step where
  | member (name : String)
  | item (index : Nat)
deriving DecidableEq

/-- Where a value stands inside another one: the steps that lead to it, the outermost first. -/
abbrev Place := List Step

namespace Step

/-- The value that a step leads to. -/
def value? : Step → Json → Option Json
  | member name, v => v.member? name
  | item i, v => v.items?.bind (·[i]?)

/-- The wording of a place with one more step behind it. -/
def extend (path : String) : Step → String
  | member name => path ++ "." ++ name
  | item i => path ++ "[" ++ toString i ++ "]"

end Step

/-- The value at a place. -/
def at? : Json → Place → Option Json
  | v, [] => some v
  | v, step :: place => (step.value? v).bind (·.at? place)

/-- The wording of a place below one that is worded already. -/
def placeText (path : String) (place : Place) : String := place.foldl Step.extend path

/-- Following some steps with `at?` takes the first one and follows the others from there. -/
theorem at?_cons (v : Json) (step : Step) (place : Place) :
    v.at? (step :: place) = (step.value? v).bind (·.at? place) := rfl

/-- The steps to a value inside are followed to the first value and from there on. -/
theorem at?_cons_eq_some {v x : Json} {step : Step} {place : Place} :
    v.at? (step :: place) = some x ↔ ∃ w, step.value? v = some w ∧ w.at? place = some x :=
  Option.bind_eq_some_iff

/-- There is nothing inside a text. -/
theorem value?_string (s : String) (step : Step) : step.value? (.string s) = none := by
  cases step <;> rfl

/-- What a text holds is the text. -/
theorem at?_string_eq_some {s : String} {place : Place} {x : Json}
    (h : (string s).at? place = some x) : x = .string s := by
  cases place with
  | nil =>
      cases h
      rfl
  | cons step place =>
      rw [at?_cons, value?_string] at h
      cases h

/-! ## Levels -/

/-- Every value has a level of its own. -/
theorem levels_pos (v : Json) : 0 < v.levels := by
  cases v <;> simp [levels]

/-- An item has fewer levels than the array. -/
theorem levels_lt_of_mem_items {x : Json} {xs : List Json} (h : x ∈ xs) :
    x.levels < (Json.array xs).levels := by
  refine Nat.lt_succ_of_le ?_
  induction xs with
  | nil => cases h
  | cons y ys ih =>
      unfold itemLevels
      rcases List.mem_cons.1 h with rfl | h
      · exact Nat.le_max_left _ _
      · exact Nat.le_trans (ih h) (Nat.le_max_right _ _)

/-- The value of a member has fewer levels than the object. -/
theorem levels_lt_of_mem_members {m : String × Json} {ms : List (String × Json)} (h : m ∈ ms) :
    m.2.levels < (Json.object ms).levels := by
  refine Nat.lt_succ_of_le ?_
  induction ms with
  | nil => cases h
  | cons n ns ih =>
      unfold memberLevels
      rcases List.mem_cons.1 h with rfl | h
      · exact Nat.le_max_left _ _
      · exact Nat.le_trans (ih h) (Nat.le_max_right _ _)

/-- Members whose values have no more levels than a number have no more together. -/
theorem memberLevels_le {ms : List (String × Json)} {n : Nat} (hn : 0 < n)
    (h : ∀ m ∈ ms, m.2.levels ≤ n) : memberLevels ms ≤ n := by
  induction ms with
  | nil => exact hn
  | cons m ms ih =>
      rw [List.forall_mem_cons] at h
      exact Nat.max_le.2 ⟨h.1, ih h.2⟩

end TypeCatalog.Json
