import TypeCatalog.Definition.Shape

/-!
# Values that an enum gives twice

The functional pass goes through the items of an enum once and remembers of each value where it was
seen last. An item whose value is remembered is reported, with the place that is remembered.

`filter_violations_eq_repeats` says what is reported in the end. The items reported are those that
have the value of an item before them, each once and in their order. The place that is told beside
is that of the last item before with the value. It is the first place of the value where the value
is repeated for the first time, and the place of another repeat from then on.
-/

set_option autoImplicit false

namespace TypeCatalog.Shape

/-! ## Repeats -/

/-- The value of the item at an index, when it is a text that is not empty. -/
def valueAt? (items : List Json) (i : Nat) : Option String := items[i]?.bind itemValue?

/-- An item, by its index, with the value of an item before it. -/
structure Repeat where
  index : Nat
  value : String
  /-- The index of the item before it. -/
  previous : Nat

namespace Repeat

/-- Whether some items repeat a value in this way: the item at the index has the value, and the
last item before it that has the value, too, is the one at the previous index. -/
structure IsIn (items : List Json) (r : Repeat) : Prop where
  value : valueAt? items r.index = some r.value
  before : r.previous < r.index
  previous : valueAt? items r.previous = some r.value
  nearest : ∀ i, r.previous < i → i < r.index → valueAt? items i ≠ some r.value

/-- The violation that a repeat is. Its message and its details tell the same two indices. -/
def toViolation (r : Repeat) : Violation where
  rule := .duplicateEnumValue
  path := itemPath "items" r.index ++ ".value"
  message := "Enum item value '" ++ r.value ++ "' at index " ++ toString r.index
    ++ " duplicates index " ++ toString r.previous
  details := .object [("index", .ofNat r.index), ("value", .string r.value),
    ("firstIndex", .ofNat r.previous)]

end Repeat

/-! ## Values at indices -/

section

variable {front rest : List Json} {x : Json}

/-- The values in front are the same with more items behind them. -/
theorem valueAt?_append_of_lt {i : Nat} (h : i < front.length) :
    valueAt? (front ++ rest) i = valueAt? front i := by
  unfold valueAt?
  rw [List.getElem?_append_left h]

/-- Behind some items stands the value of the next one. -/
theorem valueAt?_length : valueAt? (front ++ x :: rest) front.length = itemValue? x := by
  unfold valueAt?
  rw [List.getElem?_append_right (Nat.le_refl _), Nat.sub_self]
  rfl

/-- An index with a value is one of an item. -/
theorem lt_length_of_valueAt? {i : Nat} {s : String} (h : valueAt? front i = some s) :
    i < front.length := by
  unfold valueAt? at h
  obtain ⟨y, hy, -⟩ := Option.bind_eq_some_iff.1 h
  exact (List.getElem?_eq_some_iff.1 hy).1

end

/-- Where an item before an index has a value, there is a last such item. -/
theorem exists_nearest {items : List Json} {s : String} {i n : Nat} (hlt : i < n)
    (hi : valueAt? items i = some s) :
    ∃ j < n, valueAt? items j = some s ∧ ∀ k, j < k → k < n → valueAt? items k ≠ some s := by
  induction n with
  | zero => cases hlt
  | succ n ih =>
      by_cases hn : valueAt? items n = some s
      · exact ⟨n, Nat.lt_succ_self n, hn, fun k hk hkn => absurd hkn (by omega)⟩
      · have hne : i ≠ n := by
          rintro rfl
          exact hn hi
        obtain ⟨j, hj, hvalue, hnearest⟩ := ih (by omega)
        refine ⟨j, by omega, hvalue, fun k hk hkn => ?_⟩
        rcases Nat.lt_succ_iff_lt_or_eq.1 hkn with hkn | rfl
        · exact hnearest k hk hkn
        · exact hn

/-! ## What is remembered -/

/-- Whether a table tells of every value in which item of a list it was seen last. -/
def Remembers (front : List Json) (seen : List (String × Nat)) : Prop :=
  ∀ s j, seen.lookup s = some j ↔
    valueAt? front j = some s ∧ ∀ i, j < i → valueAt? front i ≠ some s

/-- Of no items nothing is remembered. -/
theorem remembers_nil : Remembers [] [] := by
  intro s j
  refine iff_of_false nofun ?_
  rintro ⟨h, -⟩
  exact absurd (lt_length_of_valueAt? h) (Nat.not_lt_zero j)

/-- The table behind one more item. -/
def remember (i : Nat) (x : Json) (seen : List (String × Nat)) : List (String × Nat) :=
  match itemValue? x with
  | some s => (s, i) :: seen
  | none => seen

/-- One more item is remembered. -/
theorem Remembers.concat {front : List Json} {seen : List (String × Nat)}
    (h : Remembers front seen) (x : Json) :
    Remembers (front ++ [x]) (remember front.length x seen) := by
  have hlast : valueAt? (front ++ [x]) front.length = itemValue? x := valueAt?_length
  -- There is no value behind the last item.
  have hbeyond {i : Nat} (hi : front.length < i) (s : String) :
      valueAt? (front ++ [x]) i ≠ some s := by
    intro hs
    have hlt := lt_length_of_valueAt? hs
    rw [List.length_append, List.length_singleton] at hlt
    omega
  intro s j
  by_cases hx : itemValue? x = some s
  · -- The item has the value: its index is the last one.
    have hlookup : (remember front.length x seen).lookup s = some front.length := by
      unfold remember
      rw [hx]
      exact List.lookup_cons_self
    rw [hlookup]
    constructor
    · intro hj
      cases hj
      exact ⟨hlast.trans hx, fun i hi => hbeyond hi s⟩
    · rintro ⟨hj, hnone⟩
      have hlt := lt_length_of_valueAt? hj
      rw [List.length_append, List.length_singleton] at hlt
      rcases Nat.lt_succ_iff_lt_or_eq.1 hlt with hlt | rfl
      · exact absurd (hlast.trans hx) (hnone front.length hlt)
      · rfl
  · -- The item has another value or none: what is remembered of this one stays.
    have hlookup : (remember front.length x seen).lookup s = seen.lookup s := by
      unfold remember
      cases hvalue : itemValue? x with
      | none => rfl
      | some t =>
          have hne : s ≠ t := by
            rintro rfl
            exact hx hvalue
          exact (List.lookup_cons).trans (by rw [beq_false_of_ne hne])
    rw [hlookup, h s j]
    have hsame (i : Nat) : valueAt? (front ++ [x]) i = some s ↔ valueAt? front i = some s := by
      rcases Nat.lt_trichotomy i front.length with hi | rfl | hi
      · rw [valueAt?_append_of_lt hi]
      · rw [hlast]
        exact iff_of_false hx fun hs => Nat.lt_irrefl _ (lt_length_of_valueAt? hs)
      · exact iff_of_false (hbeyond hi s) fun hs => Nat.lt_asymm hi (lt_length_of_valueAt? hs)
    simp only [hsame, ne_eq]

/-! ## What one item adds -/

/-- The repeat that an item is, by what is remembered of the items before it. -/
def repeat? (i : Nat) (seen : List (String × Nat)) (x : Json) : Option Repeat :=
  (itemValue? x).bind fun s => (seen.lookup s).map fun j => ⟨i, s, j⟩

/-- The item behind those remembered is a repeat exactly when it repeats a value of theirs. -/
theorem repeat?_eq_some_iff {front : List Json} {seen : List (String × Nat)}
    (h : Remembers front seen) {x : Json} {rest : List Json} {r : Repeat} :
    repeat? front.length seen x = some r
      ↔ r.IsIn (front ++ x :: rest) ∧ r.index = front.length := by
  unfold repeat?
  rw [Option.bind_eq_some_iff]
  constructor
  -- A repeat that is found has the nearest index that is remembered for its value.
  · rintro ⟨s, hs, hr⟩
    obtain ⟨j, hj, rfl⟩ := Option.map_eq_some_iff.1 hr
    obtain ⟨hprevious, hnearest⟩ := (h s j).1 hj
    have hlt := lt_length_of_valueAt? hprevious
    refine ⟨⟨valueAt?_length.trans hs, hlt, ?_, ?_⟩, rfl⟩
    · exact (valueAt?_append_of_lt hlt).trans hprevious
    · intro i hbehind hbefore
      rw [valueAt?_append_of_lt hbefore]
      exact hnearest i hbehind
  -- What is nearest in the whole list is nearest among the items in front.
  · rintro ⟨⟨hvalue, hbefore, hprevious, hnearest⟩, hindex⟩
    obtain ⟨i, s, j⟩ := r
    obtain rfl : i = front.length := hindex
    rw [valueAt?_length] at hvalue
    rw [valueAt?_append_of_lt hbefore] at hprevious
    refine ⟨s, hvalue, Option.map_eq_some_iff.2 ⟨j, (h s j).2 ⟨hprevious, ?_⟩, rfl⟩⟩
    intro i hbehind hi
    have hlt := lt_length_of_valueAt? hi
    exact hnearest i hbehind hlt ((valueAt?_append_of_lt hlt).trans hi)

/-! ## What is reported -/

/-- The violations that report a repeat. -/
def repeatsAmong (vs : List Violation) : List Violation :=
  vs.filter fun v => v.rule = .duplicateEnumValue

/-- The repeats among two lists are those of each. -/
theorem repeatsAmong_append (vs ws : List Violation) :
    repeatsAmong (vs ++ ws) = repeatsAmong vs ++ repeatsAmong ws :=
  List.filter_append ..

/-- Where no violation is of the rule for repeated values, there are no repeats. -/
theorem repeatsAmong_eq_nil {vs : List Violation} (h : ∀ v ∈ vs, v.rule ≠ .duplicateEnumValue) :
    repeatsAmong vs = [] :=
  List.filter_eq_nil_iff.2 fun v hv => by
    rw [decide_eq_true_eq]
    exact h v hv

/-- A violation of another rule under a condition is none. -/
theorem repeatsAmong_when (condition : Bool) {rule : Rule} (path message : String)
    (h : rule ≠ .duplicateEnumValue) : repeatsAmong (when condition rule path message) = [] := by
  refine repeatsAmong_eq_nil fun v hv => ?_
  unfold when at hv
  split at hv
  · rw [List.mem_singleton.1 hv]
    exact h
  · cases hv

/-- What is reported item by item holds none, when nothing of an item does. -/
theorem repeatsAmong_flatMap {α : Type} {xs : List α} {f : α → List Violation}
    (h : ∀ x, repeatsAmong (f x) = []) : repeatsAmong (xs.flatMap f) = [] := by
  unfold repeatsAmong at h ⊢
  rw [List.filter_flatMap, List.flatMap_eq_nil_iff]
  exact fun x _ => h x

/-- Unknown fields are no repeats. -/
theorem repeatsAmong_unknownFields {rule : Rule} (pathTo : String → String) (fields : List String)
    (suffix : String) (ms : Members) (h : rule ≠ .duplicateEnumValue) :
    repeatsAmong (unknownFields rule pathTo fields suffix ms) = [] := by
  refine repeatsAmong_eq_nil fun v hv => ?_
  obtain ⟨m, -, rfl⟩ := List.mem_map.1 hv
  exact h

/-- Examples are checked by other rules. -/
theorem repeatsAmong_checkExamples (isRequired : Bool) (field : String) (ms : Members) :
    repeatsAmong (checkExamples false isRequired field ms) = [] := by
  unfold checkExamples
  split
  · exact repeatsAmong_when _ _ _ (by decide)
  · refine repeatsAmong_flatMap fun entry => ?_
    dsimp only
    unfold checkExample
    split
    · simp only [repeatsAmong_append]
      rw [repeatsAmong_when _ _ _ (by decide), repeatsAmong_when _ _ _ (by decide),
        repeatsAmong_unknownFields _ _ _ _ (by decide)]
      exact repeatsAmong_when _ _ _ (by decide)
    · rfl
  · rfl

/-- So are names. -/
theorem repeatsAmong_checkIdentifier {rule : Rule} (field title : String) (ms : Members)
    (h : rule ≠ .duplicateEnumValue) : repeatsAmong (checkIdentifier rule field title ms) = [] := by
  unfold checkIdentifier
  split
  · exact repeatsAmong_when _ _ _ h
  · refine repeatsAmong_eq_nil fun v hv => ?_
    rw [List.mem_singleton.1 hv]
    exact h

/-- The header has no values to repeat. -/
theorem repeatsAmong_checkHeader (ms : Members) : repeatsAmong (checkHeader false ms) = [] := by
  unfold checkHeader summaryNote
  simp only [repeatsAmong_append]
  rw [repeatsAmong_checkIdentifier _ _ _ (by decide),
    repeatsAmong_checkIdentifier _ _ _ (by decide),
    repeatsAmong_flatMap fun _ => repeatsAmong_when _ _ _ (by decide),
    repeatsAmong_when _ _ _ (by decide), repeatsAmong_when _ _ _ (by decide),
    repeatsAmong_flatMap fun _ => repeatsAmong_when _ _ _ (by decide),
    repeatsAmong_checkExamples]
  rfl

/-- So is the kind. -/
theorem repeatsAmong_checkKind (ms : Members) : repeatsAmong (checkKind ms) = [] := by
  unfold checkKind
  split
  · rfl
  · exact repeatsAmong_when _ _ _ (by decide)

/-- The other fields of an item are no repeats. -/
theorem repeatsAmong_checkItemFields (i : Nat) (ms : Members) :
    repeatsAmong (checkItemFields false i ms) = [] := by
  unfold checkItemFields summaryNote
  simp only [repeatsAmong_append]
  rw [repeatsAmong_when _ _ _ (by decide),
    repeatsAmong_flatMap fun _ => repeatsAmong_when _ _ _ (by decide),
    repeatsAmong_unknownFields _ _ _ _ (by decide), repeatsAmong_when _ _ _ (by decide)]
  rfl

/-- The check of the value of an item reports the repeat that `repeat?` finds, and no other one. -/
theorem repeatsAmong_checkItemValue (i : Nat) (seen : List (String × Nat)) (x : Json) :
    repeatsAmong (checkItemValue i seen x) = (repeat? i seen x).toList.map Repeat.toViolation := by
  unfold checkItemValue repeat?
  dsimp only
  cases itemValue? x with
  | none => rfl
  | some s =>
      rw [Option.bind_some]
      dsimp only
      cases seen.lookup s with
      | none => rfl
      | some j =>
          -- The violation is the one of the repeat, word for word.
          rfl

/-- One step through the items: the repeat that the item is, and then those behind it. -/
theorem repeatsAmong_checkItems_cons (i : Nat) (seen : List (String × Nat)) (x : Json)
    (items : List Json) :
    repeatsAmong (checkItems false i seen (x :: items))
      = (repeat? i seen x).toList.map Repeat.toViolation
        ++ repeatsAmong (checkItems false (i + 1) (remember i x seen) items) := by
  cases x with
  | object ms =>
      rw [checkItems, repeatsAmong_append, repeatsAmong_append, repeatsAmong_checkItemValue,
        repeatsAmong_checkItemFields, List.append_nil]
      rfl
  | _ => rfl

/-- All that is reported of items is that they repeat values, each of them once and in their order.
The induction is on the items that are left; the others are remembered. -/
theorem exists_repeats_of_remembers {front : List Json} {seen : List (String × Nat)}
    (h : Remembers front seen) (items : List Json) :
    ∃ repeats : List Repeat, repeats.Pairwise (·.index < ·.index)
      ∧ (∀ r, r ∈ repeats ↔ r.IsIn (front ++ items) ∧ front.length ≤ r.index)
      ∧ repeatsAmong (checkItems false front.length seen items)
        = repeats.map Repeat.toViolation := by
  induction items generalizing front seen with
  | nil =>
      refine ⟨[], .nil, fun r => iff_of_false List.not_mem_nil ?_, rfl⟩
      rintro ⟨hr, hle⟩
      rw [List.append_nil] at hr
      exact Nat.not_lt.2 hle (lt_length_of_valueAt? hr.value)
  | cons x items ih =>
      obtain ⟨later, hsorted, hlater, hviolations⟩ := ih (h.concat x)
      have happend : front ++ [x] ++ items = front ++ x :: items := by simp
      have hlength : (front ++ [x]).length = front.length + 1 := by simp
      rw [happend, hlength] at hlater
      rw [hlength] at hviolations
      -- A repeat among the items is the one of this item or one of the later items.
      have hhere (r : Repeat) : r ∈ (repeat? front.length seen x).toList
          ↔ r.IsIn (front ++ x :: items) ∧ r.index = front.length := by
        rw [Option.mem_toList, repeat?_eq_some_iff h]
      refine ⟨(repeat? front.length seen x).toList ++ later, ?_, ?_, ?_⟩
      · refine List.pairwise_append.2 ⟨?_, hsorted, ?_⟩
        · cases repeat? front.length seen x with
          | none => exact .nil
          | some r => exact List.pairwise_singleton _ r
        · intro r hr q hq
          rw [((hhere r).1 hr).2]
          exact ((hlater q).1 hq).2
      · intro r
        -- Which of the two it is shows in its index.
        rw [List.mem_append, hhere, hlater, ← and_or_left]
        refine and_congr_right fun _ => ?_
        omega
      · rw [repeatsAmong_checkItems_cons, hviolations, List.map_append]

/-- What the functional pass reports of the values that the items of an enum repeat. There is one
violation for each item that has the value of an item before it, in the order of the items. It
stands at the place of the value, and tells the value, the index of the item and that of the last
item before it with the value. This index is the first one of the value, or the item there is a
repeat itself; so it is the first one as long as the value is given no more than twice. -/
theorem filter_violations_eq_repeats {ms : Members} {items : List Json}
    (hkind : kind? ms = some .enum) (hitems : ms.lookup "items" = some (.array items)) :
    ∃ repeats : List Repeat, repeats.Pairwise (·.index < ·.index)
      ∧ (∀ r, r ∈ repeats ↔ r.IsIn items)
      ∧ (violations (.object ms)).filter (fun v => v.rule = .duplicateEnumValue)
        = repeats.map Repeat.toViolation
      ∧ ∀ r ∈ repeats, (∀ i < r.previous, valueAt? items i ≠ some r.value)
        ↔ ¬ ∃ q ∈ repeats, q.index = r.previous := by
  obtain ⟨repeats, hsorted, hmem, hviolations⟩ := exists_repeats_of_remembers remembers_nil items
  have hmem (r : Repeat) : r ∈ repeats ↔ r.IsIn items := by
    rw [hmem, List.nil_append]
    exact and_iff_left (Nat.zero_le _)
  refine ⟨repeats, hsorted, hmem, ?_, ?_⟩
  · rw [← hviolations]
    -- Outside the check of the items nothing is a repeat: kind, header and unknown fields have
    -- other rules.
    show repeatsAmong (check false (.object ms)) = _
    unfold check
    dsimp only
    rw [hkind]
    dsimp only
    simp only [repeatsAmong_append]
    rw [repeatsAmong_checkKind, repeatsAmong_checkHeader,
      repeatsAmong_unknownFields _ _ _ _ (by decide)]
    unfold checkBody checkEnum
    rw [hitems]
    dsimp only [Option.bind_some, Json.items?]
    rw [repeatsAmong_append, repeatsAmong_append, repeatsAmong_when _ _ _ (by decide),
      repeatsAmong_when _ _ _ (by decide)]
    rfl
  · intro r hr
    have hr := (hmem r).1 hr
    constructor
    -- A previous item that is a repeat itself has the value of an item before it, so it is not the
    -- first one.
    · rintro hfirst ⟨q, hq, hindex⟩
      obtain ⟨hvalue, hbefore, hprevious, -⟩ := (hmem q).1 hq
      rw [hindex] at hvalue hbefore
      refine hfirst q.previous hbefore ?_
      rw [hprevious, ← hvalue, hr.previous]
    · -- With an item still before it, the previous one is a repeat: of the nearest such item.
      intro hnot i hlt hi
      obtain ⟨j, hj, hvalue, hnearest⟩ := exists_nearest hlt hi
      exact hnot ⟨⟨r.previous, r.value, j⟩, (hmem _).2 ⟨hr.previous, hj, hvalue, hnearest⟩, rfl⟩

/-- Items with the values `a`, none, `a`, `b`, and `a` once more. -/
def letterItems : List Json :=
  [.object [("value", .string "a")], .null, .object [("value", .string "a")],
    .object [("value", .string "b")], .object [("value", .string "a")]]

/-- The item at index 4 has its value from index 0 on, and is told to repeat the item at index 2,
which is itself told to repeat the one at index 0. -/
theorem exists_repeat_letterItems :
    ∃ repeats : List Repeat, ⟨4, "a", 2⟩ ∈ repeats ∧ ⟨2, "a", 0⟩ ∈ repeats
      ∧ (violations (.object [("kind", .string "enum"), ("items", .array letterItems)])).filter
          (fun v => v.rule = .duplicateEnumValue) = repeats.map Repeat.toViolation
      ∧ ¬ ∀ i < 2, valueAt? letterItems i ≠ some "a" := by
  have hkind : kind? [("kind", .string "enum"), ("items", .array letterItems)] = some .enum := by
    decide
  have hitems : List.lookup "items" [("kind", .string "enum"), ("items", .array letterItems)]
      = some (Json.array letterItems) := rfl
  obtain ⟨repeats, -, hmem, hviolations, hfirst⟩ := filter_violations_eq_repeats hkind hitems
  have hthird : ⟨4, "a", 2⟩ ∈ repeats := (hmem _).2
    ⟨by decide, by decide, by decide, fun i hi hlt => by
      obtain rfl : i = 3 := Nat.le_antisymm (Nat.lt_succ_iff.1 hlt) hi
      decide⟩
  have hsecond : ⟨2, "a", 0⟩ ∈ repeats := (hmem _).2
    ⟨by decide, by decide, by decide, fun i hi hlt => by
      obtain rfl : i = 1 := Nat.le_antisymm (Nat.lt_succ_iff.1 hlt) hi
      decide⟩
  exact ⟨repeats, hthird, hsecond, hviolations,
    fun h => (hfirst _ hthird).1 h ⟨_, hsecond, rfl⟩⟩

end TypeCatalog.Shape
