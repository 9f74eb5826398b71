import Mathlib.Data.List.Forall2
import TypeCatalog.Proofs.Definition.Fields

/-!
# Definitions written in another order

The members of an object keep their order, so two texts of one definition may differ in the order of
the members alone: those of the definition, and those of the objects that its lists hold, which are
its examples, test cases, items, properties and variants. `Definition.Reordered` is the relation
between two such values. What a declared value holds is not a part of the definition, and is the
same on both sides.

Neither the check of the shape nor the reader goes by the order. `Shape.check_perm` says that the
same rules are broken, though they may be told in another order, and
`Definition.decode_of_reordered` that the same definition is read. Both see the members by their
names; `Alike` is what they see.
-/

set_option autoImplicit false

namespace TypeCatalog

open Result Shape

/-! ## Values in another order -/

/-- Whether a value is another one, or holds its members in another order. -/
inductive Json.Reordered : Json → Json → Prop
  | same (v : Json) : Reordered v v
  | object {ms ns : Members} (hnodup : (ms.map Prod.fst).Nodup) (h : ms.Perm ns) :
      Reordered (.object ms) (.object ns)

/-- The lists of a definition that hold objects with fields. -/
def Definition.partFields : List String :=
  ["examples", "validTestCases", "invalidTestCases", "items", "properties", "variants"]

/-- Whether a member of a definition has the value of another one, or is a list of the same parts
with their members in another order. -/
inductive Definition.FieldReordered (field : String) : Json → Json → Prop
  | same (v : Json) : FieldReordered field v v
  | parts {xs ys : List Json} (hfield : field ∈ partFields)
      (h : List.Forall₂ Json.Reordered xs ys) : FieldReordered field (.array xs) (.array ys)

/-- Whether a raw definition differs from another one at most in the order of its members and of
those of its parts. -/
inductive Definition.Reordered : Json → Json → Prop
  | same (v : Json) : Reordered v v
  | object {ms rs ns : Members} (hnodup : (ms.map Prod.fst).Nodup)
      (hfields : List.Forall₂ (fun m r => m.1 = r.1 ∧ FieldReordered m.1 m.2 r.2) ms rs)
      (h : rs.Perm ns) : Reordered (.object ms) (.object ns)

open Definition (FieldReordered partFields)

/-- Being the same value but for the order of the members of the outermost object goes both ways. -/
theorem Json.Reordered.symm {v w : Json} (h : Reordered v w) : Reordered w v := by
  cases h with
  | same => exact .same _
  | object hnodup h => exact .object ((h.map Prod.fst).nodup_iff.1 hnodup) h.symm

/-- So does the relation for the value of one field of a definition. -/
theorem Definition.FieldReordered.symm {field : String} {v w : Json}
    (h : FieldReordered field v w) : FieldReordered field w v := by
  cases h with
  | same => exact .same _
  | parts hfield h => exact .parts hfield (h.flip.imp fun _ _ => Json.Reordered.symm)

/-- A field that holds no parts has the same value. -/
theorem Definition.FieldReordered.eq {field : String} {v w : Json} (h : FieldReordered field v w)
    (hfield : field ∉ partFields) : v = w := by
  cases h with
  | same => rfl
  | parts hmem => exact absurd hmem hfield

/-! ## Members by their names -/

/-- Whether members have the same names, none of them twice, and their values at each name are
related. -/
structure Alike (R : String → Json → Json → Prop) (ms ns : Members) : Prop where
  names : (ms.map Prod.fst).Perm (ns.map Prod.fst)
  nodup : (ms.map Prod.fst).Nodup
  lookup : ∀ name, Option.Rel (R name) (ms.lookup name) (ns.lookup name)

/-- Members in another order have the same values at their names. -/
theorem lookup_of_perm {ms ns : Members} (hnodup : (ms.map Prod.fst).Nodup) (h : ms.Perm ns)
    (name : String) : ms.lookup name = ns.lookup name := by
  have hnodup' : (ns.map Prod.fst).Nodup := (h.map Prod.fst).nodup_iff.1 hnodup
  cases hv : ms.lookup name with
  | none =>
      refine (Table.lookup_eq_none_iff_forall.2 fun hmem => ?_).symm
      exact Table.lookup_eq_none_iff_forall.1 hv ((h.map Prod.fst).mem_iff.2 hmem)
  | some v => exact (Table.lookup_of_mem hnodup' (h.mem_iff.1 (Table.mem_of_lookup hv))).symm

namespace Alike

variable {R : String → Json → Json → Prop} {ms ns : Members}

/-- Members that are alike are so the other way round, when the relation between their values is. -/
theorem symm (hR : ∀ {name v w}, R name v w → R name w v) (h : Alike R ms ns) : Alike R ns ms := by
  refine ⟨h.names.symm, h.names.nodup_iff.1 h.nodup, fun name => ?_⟩
  have hrel := h.lookup name
  generalize ms.lookup name = v, ns.lookup name = w at hrel
  cases hrel with
  | none => exact .none
  | some hvw => exact .some (hR hvw)

/-- A name is missing in both or in neither. -/
theorem isNone_eq (h : Alike R ms ns) (name : String) :
    (ms.lookup name).isNone = (ns.lookup name).isNone := by
  have hrel := h.lookup name
  generalize ms.lookup name = v, ns.lookup name = w at hrel
  cases hrel <;> rfl

/-- Each member on the one side has one on the other side. -/
theorem exists_of_mem (h : Alike R ms ns) {name : String} {w : Json} (hw : (name, w) ∈ ns) :
    ∃ v, (name, v) ∈ ms ∧ R name v w := by
  have hlookup := Table.lookup_of_mem (h.names.nodup_iff.1 h.nodup) hw
  have hrel := h.lookup name
  rw [hlookup] at hrel
  generalize hv : ms.lookup name = v at hrel
  cases hrel with
  | some hvw => exact ⟨_, Table.mem_of_lookup hv, hvw⟩

/-- Members in another order are alike, with the same values. -/
theorem of_perm (hnodup : (ms.map Prod.fst).Nodup) (h : ms.Perm ns) :
    Alike (fun _ => Eq) ms ns := by
  refine ⟨h.map Prod.fst, hnodup, fun name => ?_⟩
  rw [lookup_of_perm hnodup h]
  cases ns.lookup name with
  | none => exact .none
  | some v => exact .some rfl

/-- Changing the values in their places and then the order gives members that are alike. -/
theorem of_forall₂ {rs : Members} (hnodup : (ms.map Prod.fst).Nodup)
    (hfields : List.Forall₂ (fun m r => m.1 = r.1 ∧ R m.1 m.2 r.2) ms rs) (h : rs.Perm ns) :
    Alike R ms ns := by
  have hnames : ms.map Prod.fst = rs.map Prod.fst := by
    rw [← List.forall₂_eq_eq_eq, List.forall₂_map_left_iff, List.forall₂_map_right_iff]
    exact hfields.imp fun _ _ hmr => hmr.1
  -- A lookup finds pairs by their names, and these stand at the same places before the order
  -- changes.
  have hplaces (name : String) : Option.Rel (R name) (ms.lookup name) (rs.lookup name) := by
    clear hnodup hnames h
    induction hfields with
    | nil => exact .none
    | @cons m r ms rs hmr _ ih =>
        obtain ⟨k, v⟩ := m
        obtain ⟨l, w⟩ := r
        obtain ⟨rfl, hvw⟩ := hmr
        rw [List.lookup_cons, List.lookup_cons]
        by_cases hname : name = k
        · rw [hname, beq_self_eq_true]
          exact .some hvw
        · rw [beq_false_of_ne hname]
          exact ih
  refine ⟨hnames ▸ h.map Prod.fst, hnodup, fun name => ?_⟩
  rw [← lookup_of_perm (hnames ▸ hnodup) h]
  exact hplaces name

/-- A field has the same value on both sides, or lists of the same parts. -/
theorem lookup_cases (h : Alike FieldReordered ms ns) (name : String) :
    ms.lookup name = ns.lookup name
      ∨ name ∈ partFields ∧ ∃ xs ys, ms.lookup name = some (.array xs)
        ∧ ns.lookup name = some (.array ys) ∧ List.Forall₂ Json.Reordered xs ys := by
  have hrel := h.lookup name
  generalize ms.lookup name = v, ns.lookup name = w at hrel
  cases hrel with
  | none => exact .inl rfl
  | some hvw =>
      cases hvw with
      | same => exact .inl rfl
      | parts hname hxy => exact .inr ⟨hname, _, _, rfl, rfl, hxy⟩

/-- A field without parts has the same value on both sides. -/
theorem lookup_eq (h : Alike FieldReordered ms ns) {name : String} (hname : name ∉ partFields) :
    ms.lookup name = ns.lookup name :=
  (h.lookup_cases name).resolve_right fun hparts => hname hparts.1

end Alike

/-- Raw definitions in another order are one value, or objects with members that are alike. -/
theorem Definition.Reordered.eq_or_alike {v w : Json} (h : Reordered v w) :
    v = w ∨ ∃ ms ns, v = .object ms ∧ w = .object ns ∧ Alike FieldReordered ms ns := by
  cases h with
  | same => exact .inl rfl
  | object hnodup hfields h => exact .inr ⟨_, _, rfl, rfl, .of_forall₂ hnodup hfields h⟩

namespace Shape

/-! ## The rules that parts break -/

section Parts

variable {ms ns : Members} {x y : Json} {xs ys : List Json}

/-- Unknown fields are told by their names alone. -/
theorem unknownFields_perm (rule : Rule) (pathTo : String → String) (fields : List String)
    (suffix : String) (h : (ms.map Prod.fst).Perm (ns.map Prod.fst)) :
    (unknownFields rule pathTo fields suffix ms).Perm
      (unknownFields rule pathTo fields suffix ns) := by
  have hnames (rs : Members) : unknownFields rule pathTo fields suffix rs
      = ((rs.map Prod.fst).filter fun k => !fields.contains k).map fun k =>
        .plain rule (pathTo k) ("Field '" ++ k ++ "' is not allowed on " ++ suffix) := by
    unfold unknownFields
    rw [List.filter_map, List.map_map]
    rfl
  rw [hnames, hnames]
  exact (h.filter _).map _

/-- A check of items finds the same in lists of the same parts. -/
theorem eachItem_perm {check : Nat → Json → List Violation}
    (hcheck : ∀ i {x y}, Json.Reordered x y → (check i x).Perm (check i y))
    (h : List.Forall₂ Json.Reordered xs ys) : (eachItem check xs).Perm (eachItem check ys) := by
  unfold eachItem
  generalize 0 = i
  induction h generalizing i with
  | nil => exact .refl _
  | cons hxy _ ih =>
      rw [List.zipIdx_cons, List.zipIdx_cons, List.flatMap_cons, List.flatMap_cons]
      exact (hcheck i hxy).append (ih (i + 1))

/-- The check of an example goes by its members, whose order does not matter. -/
theorem checkExample_perm (notes : Bool) (path : String) (h : Json.Reordered x y) :
    (checkExample notes path x).Perm (checkExample notes path y) := by
  cases h with
  | same => exact .refl _
  | object hnodup h =>
      unfold checkExample
      simp only [lookup_of_perm hnodup h]
      exact ((unknownFields_perm _ _ _ _ (h.map _)).append_left _).append_right _

/-- The value of an item is the same: `itemValue?` looks its member up. -/
theorem itemValue?_of_reordered (h : Json.Reordered x y) : itemValue? x = itemValue? y := by
  cases h with
  | same => rfl
  | object hnodup h =>
      unfold itemValue? Json.member?
      simp only [lookup_of_perm hnodup h]

/-- So is the name that is declared by a property or a variant. -/
theorem declaredName?_of_reordered (h : Json.Reordered x y) :
    declaredName? x = declaredName? y := by
  cases h with
  | same => rfl
  | object hnodup h =>
      unfold declaredName? Json.member?
      simp only [lookup_of_perm hnodup h]

/-- The checks of one item report the same, when the order of its members differs. -/
theorem checkItemFields_perm (notes : Bool) (i : Nat) (hnodup : (ms.map Prod.fst).Nodup)
    (h : ms.Perm ns) : (checkItemFields notes i ms).Perm (checkItemFields notes i ns) := by
  unfold checkItemFields
  simp only [lookup_of_perm hnodup h]
  exact ((unknownFields_perm _ _ _ _ (h.map _)).append_left _).append_right _

/-- So do those of one property. -/
theorem checkPropertyFields_perm (notes : Bool) (i : Nat) (hnodup : (ms.map Prod.fst).Nodup)
    (h : ms.Perm ns) : (checkPropertyFields notes i ms).Perm (checkPropertyFields notes i ns) := by
  unfold checkPropertyFields
  simp only [lookup_of_perm hnodup h]
  exact ((unknownFields_perm _ _ _ _ (h.map _)).append_left _).append_right _

/-- So do those of one variant, among the properties that are declared. -/
theorem checkVariantFields_perm (notes : Bool) (i : Nat) (declared : List String)
    (hnodup : (ms.map Prod.fst).Nodup) (h : ms.Perm ns) :
    (checkVariantFields notes i declared ms).Perm (checkVariantFields notes i declared ns) := by
  unfold checkVariantFields
  simp only [lookup_of_perm hnodup h]
  exact ((unknownFields_perm _ _ _ _ (h.map _)).append_left _).append_right _

/-- The items of an enum keep their places, and so each index and each value seen before is the
same. Only what is reported of one item may change its order. -/
theorem checkItems_perm (notes : Bool) (i : Nat) (seen : List (String × Nat))
    (h : List.Forall₂ Json.Reordered xs ys) :
    (checkItems notes i seen xs).Perm (checkItems notes i seen ys) := by
  induction h generalizing i seen with
  | nil => exact .refl _
  | cons hxy _ ih =>
      have hvalue := itemValue?_of_reordered hxy
      -- An item that is no object is the same on both sides; one that is may have its members in
      -- another order.
      cases hxy with
      | same =>
          rename Json => v
          cases v with
          | object ms => exact (ih _ _).append_left _
          | _ => exact (ih _ _).cons _
      | object hnodup h =>
          unfold checkItems checkItemValue
          rw [hvalue]
          exact ((checkItemFields_perm notes i hnodup h).append_left _).append (ih _ _)

/-- The properties keep their places, with the same names declared before each. -/
theorem checkPropertyList_perm (notes : Bool) (i : Nat) (declared : List String)
    (h : List.Forall₂ Json.Reordered xs ys) :
    (checkPropertyList notes i declared xs).Perm (checkPropertyList notes i declared ys) := by
  induction h generalizing i declared with
  | nil => exact .refl _
  | cons hxy _ ih =>
      have hname := declaredName?_of_reordered hxy
      cases hxy with
      | same =>
          rename Json => v
          cases v with
          | object ms => exact (ih _ _).append_left _
          | _ => exact (ih _ _).cons _
      | object hnodup h =>
          unfold checkPropertyList checkPropertyName
          rw [hname, lookup_of_perm hnodup h]
          exact ((checkPropertyFields_perm notes i hnodup h).append_left _).append (ih _ _)

/-- So do the variants. -/
theorem checkVariantList_perm (notes : Bool) (declared : List String) (i : Nat)
    (seen : List String) (h : List.Forall₂ Json.Reordered xs ys) :
    (checkVariantList notes declared i seen xs).Perm
      (checkVariantList notes declared i seen ys) := by
  induction h generalizing i seen with
  | nil => exact .refl _
  | cons hxy _ ih =>
      have hname := declaredName?_of_reordered hxy
      cases hxy with
      | same =>
          rename Json => v
          cases v with
          | object ms => exact (ih _ _).append_left _
          | _ => exact (ih _ _).cons _
      | object hnodup h =>
          unfold checkVariantList checkVariantName
          rw [hname]
          exact ((checkVariantFields_perm notes i declared hnodup h).append_left _).append (ih _ _)

end Parts

/-! ## The rules that a definition breaks -/

section Definitions

variable {ms ns : Members}

/-- A list of examples under a field reports the same. -/
theorem checkExamples_perm (notes isRequired : Bool) (field : String)
    (h : Alike FieldReordered ms ns) :
    (checkExamples notes isRequired field ms).Perm (checkExamples notes isRequired field ns) := by
  unfold checkExamples
  obtain heq | ⟨-, xs, ys, hxs, hys, hxy⟩ := h.lookup_cases field
  · rw [heq]
  · rw [hxs, hys]
    exact eachItem_perm (fun i _ _ => checkExample_perm notes _) hxy

/-- And so do both lists of cases. -/
theorem checkTestCases_perm (validRequired : Bool) (h : Alike FieldReordered ms ns) :
    (checkTestCases validRequired ms).Perm (checkTestCases validRequired ns) :=
  (checkExamples_perm _ _ _ h).append (checkExamples_perm _ _ _ h)

/-- The check of the header goes by the fields, in the order of `Header.fields`, so the reports are
the same up to order. -/
theorem checkHeader_perm (notes : Bool) (h : Alike FieldReordered ms ns) :
    (checkHeader notes ms).Perm (checkHeader notes ns) := by
  unfold checkHeader checkIdentifier
  simp only [List.flatMap_cons, List.flatMap_nil]
  simp (disch := decide) only [h.lookup_eq]
  exact (checkExamples_perm _ _ _ h).append_left _

/-- The check of an enum looks for `items` and `dataType`. -/
theorem checkEnum_perm (notes : Bool) (h : Alike FieldReordered ms ns) :
    (checkEnum notes ms).Perm (checkEnum notes ns) := by
  unfold checkEnum
  simp (disch := decide) only [h.lookup_eq]
  refine List.Perm.append_left _ ?_
  obtain heq | ⟨-, xs, ys, hxs, hys, hxy⟩ := h.lookup_cases "items"
  · rw [heq]
  · have hempty : xs.isEmpty = ys.isEmpty := by cases hxy <;> rfl
    rw [hxs, hys, Option.bind_some, Option.bind_some, Json.items?, Json.items?]
    dsimp only
    rw [hempty]
    exact (checkItems_perm notes 0 [] hxy).append_left _

/-- The check of the properties looks for `properties`. -/
theorem checkProperties_perm (notes : Bool) (h : Alike FieldReordered ms ns) :
    (checkProperties notes ms).Perm (checkProperties notes ns) := by
  unfold checkProperties
  obtain heq | ⟨-, xs, ys, hxs, hys, hxy⟩ := h.lookup_cases "properties"
  · rw [heq]
  · have hempty : xs.isEmpty = ys.isEmpty := by cases hxy <;> rfl
    rw [hxs, hys, Option.bind_some, Option.bind_some, Json.items?, Json.items?]
    dsimp only
    rw [hempty]
    exact (checkPropertyList_perm notes 0 [] hxy).append_left _

/-- The names that are declared come in the same order, since the list has its items in their
places. -/
theorem declaredNames_of_alike (h : Alike FieldReordered ms ns) :
    declaredNames ms = declaredNames ns := by
  unfold declaredNames
  obtain heq | ⟨-, xs, ys, hxs, hys, hxy⟩ := h.lookup_cases "properties"
  · rw [heq]
  · rw [hxs, hys]
    show xs.filterMap declaredName? = ys.filterMap declaredName?
    clear hxs hys
    induction hxy with
    | nil => rfl
    | cons hx _ ih =>
        rw [List.filterMap_cons, List.filterMap_cons, declaredName?_of_reordered hx, ih]

/-- The check of the variants looks for `variants`, and compares with the declared names. -/
theorem checkVariants_perm (notes : Bool) (declared : List String)
    (h : Alike FieldReordered ms ns) :
    (checkVariants notes declared ms).Perm (checkVariants notes declared ns) := by
  unfold checkVariants
  obtain heq | ⟨-, xs, ys, hxs, hys, hxy⟩ := h.lookup_cases "variants"
  · rw [heq]
  · rw [hxs, hys]
    exact checkVariantList_perm notes declared 0 [] hxy

/-- A record is checked in four parts, each of which reports the same. -/
theorem checkRecord_perm (notes : Bool) (h : Alike FieldReordered ms ns) :
    (checkRecord notes ms).Perm (checkRecord notes ns) := by
  unfold checkRecord checkRequiredList
  have hrequired : ms.lookup "required" = ns.lookup "required" := h.lookup_eq (by decide)
  rw [declaredNames_of_alike h, hrequired]
  exact ((checkProperties_perm notes h).append_right _).append (checkVariants_perm notes _ h)

/-- The check of a body is made of parts that go by the names of the fields. -/
theorem checkBody_perm (notes : Bool) (kind : TypeKind) (h : Alike FieldReordered ms ns) :
    (checkBody notes kind ms).Perm (checkBody notes kind ns) := by
  cases kind with
  | bool => exact checkTestCases_perm false h
  | enum => exact checkEnum_perm notes h
  -- The bounds and flags are no objects, so what is read of them is equal and not only alike.
  | int =>
      unfold checkBody checkInt checkTyped read
      simp (disch := decide) only [h.lookup_eq]
      exact (checkTestCases_perm false h).append_left _
  | float =>
      unfold checkBody checkFloat checkTyped read
      simp only [List.flatMap_cons, List.flatMap_nil, List.any_cons, List.any_nil]
      simp (disch := decide) only [h.lookup_eq]
      exact (checkTestCases_perm false h).append_left _
  | string =>
      unfold checkBody checkString checkTyped checkRegex read
      simp (disch := decide) only [h.lookup_eq]
      exact (checkTestCases_perm false h).append_left _
  | object =>
      unfold checkBody
      simp (disch := decide) only [h.lookup_eq]
      exact (checkTestCases_perm false h).append_left _
  | record => exact (checkRecord_perm notes h).append (checkTestCases_perm true h)

/-- A definition in another order breaks the same rules at the same places, as often, but not always
in the same order. -/
theorem check_perm (notes : Bool) {v w : Json} (h : Definition.Reordered v w) :
    (check notes v).Perm (check notes w) := by
  obtain rfl | ⟨ms, ns, rfl, rfl, halike⟩ := h.eq_or_alike
  · exact .refl _
  · have hkind : ms.lookup "kind" = ns.lookup "kind" := halike.lookup_eq (by decide)
    unfold check
    dsimp only
    unfold checkKind kind?
    rw [hkind]
    refine ((checkHeader_perm notes halike).append_left _).append ?_
    cases ((ns.lookup "kind").bind Json.string?).bind TypeKind.ofText? with
    | none => exact .refl _
    | some kind =>
        exact (unknownFields_perm _ _ _ _ halike.names).append (checkBody_perm notes kind halike)

end Definitions

end Shape

/-! ## Reading fields -/

/-- Whether a reader overlooks the order of the parts that the value of a field has. -/
def Decoder.Overlooks {α : Type} (d : Decoder α) (field : String) : Prop :=
  ∀ {v w : Json} {a : α}, FieldReordered field v w → d v = .ok a → d w = .ok a

/-- Whether the check of a field overlooks the order of the parts of its value. -/
def Field.Overlooks (f : Field) : Prop :=
  ∀ {v w : Json}, FieldReordered f.name v w → f.check v = .ok () → f.check w = .ok ()

namespace Decoder

variable {α : Type} {d : Decoder α} {field : String}

/-- A list of parts is read alike when the parts are. -/
theorem overlooks_list {item : Decoder α}
    (hitem : ∀ {x y : Json} {a : α}, Json.Reordered x y → item x = .ok a → item y = .ok a) :
    (list item).Overlooks field := by
  intro v w as hvw h
  cases hvw with
  | same => exact h
  | @parts xs ys _ hxy =>
      refine mapM_eq_ok.2 ?_
      replace h : List.Forall₂ (fun x a => item x = .ok a) xs as := mapM_eq_ok.1 h
      induction hxy generalizing as with
      | nil => exact h
      | cons hx _ ih =>
          cases h with
          | cons ha has => exact .cons (hitem hx ha) (ih has)

/-- A decoder that overlooks the order does so for an optional field too. -/
theorem Overlooks.optional (hd : d.Overlooks field) : (optional d).Overlooks field := by
  intro v w a hvw h
  cases hvw with
  | same => exact h
  | parts hfield hxy =>
      obtain ⟨b, hb, rfl⟩ := map_eq_ok.1 h
      exact map_eq_ok.2 ⟨b, hd (.parts hfield hxy) hb, rfl⟩

end Decoder

namespace Field

variable {α : Type} {d : Decoder α} {name : String} {fields : List Field}

/-- A field that holds no parts has the same value on both sides, so there is nothing to overlook.
-/
theorem overlooks_of_notMem {f : Field} (hname : f.name ∉ partFields) : f.Overlooks :=
  fun hvw h => hvw.eq hname ▸ h

/-- A required field of a decoder that overlooks the order does. -/
theorem overlooks_required (hd : d.Overlooks name) : (required name d).Overlooks := by
  intro v w hvw h
  obtain ⟨a, ha, -⟩ := map_eq_ok.1 h
  exact map_eq_ok.2 ⟨a, hd hvw ha, rfl⟩

/-- An optional field of such a decoder does. -/
theorem overlooks_optional (hd : d.Overlooks name) : (optional name d).Overlooks := by
  intro v w hvw h
  obtain ⟨a, ha, -⟩ := map_eq_ok.1 h
  exact map_eq_ok.2 ⟨a, hd.optional hvw ha, rfl⟩

/-- Members pass when each one passes as the field that it is. -/
theorem checkMembers_eq_ok_iff {ms : Members} : checkMembers fields ms = .ok ()
    ↔ ∀ m ∈ ms, ∀ f, fields.find? (·.name = m.1) = some f → f.check m.2 = .ok () := by
  induction ms with
  | nil => exact iff_of_true rfl nofun
  | cons m ms ih =>
      obtain ⟨k, v⟩ := m
      rw [List.forall_mem_cons, ← ih, checkMembers]
      -- A member without a field passes, and one with a field has to pass as that field.
      cases fields.find? (·.name = k) with
      | none => simp
      | some f =>
          dsimp only
          rw [bind_eq_ok]
          constructor
          · rintro ⟨_, hv, hrest⟩
            exact ⟨fun _ h => by cases h; exact hv, hrest⟩
          · rintro ⟨hv, hrest⟩
            exact ⟨(), hv f rfl, hrest⟩

/-- Members that are alike pass together, if each field takes related values for the same. -/
theorem checkAll_of_alike {R : String → Json → Json → Prop} {ms ns : Members} (h : Alike R ms ns)
    (hfields : ∀ f ∈ fields, ∀ {v w}, R f.name v w → f.check v = .ok () → f.check w = .ok ())
    (hms : checkAll fields ms = .ok ()) : checkAll fields ns = .ok () := by
  obtain ⟨_, hmembers, hmissing⟩ := bind_eq_ok.1 hms
  refine bind_eq_ok.2 ⟨(), checkMembers_eq_ok_iff.2 fun m hm f hf => ?_, ?_⟩
  · obtain ⟨v, hv, hvw⟩ := h.exists_of_mem hm
    have hname : f.name = m.1 := by simpa using List.find?_some hf
    exact hfields f (List.mem_of_find?_eq_some hf) (hname ▸ hvw)
      (checkMembers_eq_ok_iff.1 hmembers _ hv f hf)
  · have hsame : missing? fields ns = missing? fields ms := by
      unfold missing?
      simp only [h.isNone_eq]
    rw [hsame]
    exact hmissing

variable {ms ns : Members}

/-- A required field is read to the same part on both sides. -/
theorem get_of_alike {a : α} (hd : d.Overlooks name) (h : Alike FieldReordered ms ns)
    (ha : get d name ms = .ok a) : get d name ns = .ok a := by
  unfold get at ha ⊢
  have hrel := h.lookup name
  generalize ms.lookup name = v, ns.lookup name = w at hrel ha
  cases hrel with
  | none => exact ha
  | some hvw => exact hd hvw ha

/-- An optional field is read to the same part on both sides. -/
theorem get?_of_alike {a : Option α} (hd : d.Overlooks name) (h : Alike FieldReordered ms ns)
    (ha : get? d name ms = .ok a) : get? d name ns = .ok a := by
  unfold get? at ha ⊢
  have hrel := h.lookup name
  generalize ms.lookup name = v, ns.lookup name = w at hrel ha
  cases hrel with
  | none => exact ha
  | some hvw => exact hd.optional hvw ha

/-- A part that is read of its members by their names is read alike in another order. -/
theorem members_of_reordered {part : String} {read : Members → Except Misfit α}
    (hread : ∀ {ms ns : Members}, (∀ name, ms.lookup name = ns.lookup name) → read ms = read ns)
    {x y : Json} (h : Json.Reordered x y) {a : α}
    (ha : (members part fields x >>= read) = .ok a) :
    (members part fields y >>= read) = .ok a := by
  cases h with
  | same => exact ha
  | @object ms ns hnodup hperm =>
      obtain ⟨rs, hrs, ha⟩ := bind_eq_ok.1 ha
      cases eq_of_members hrs
      obtain ⟨_, hall, -⟩ := bind_eq_ok.1 hrs
      have halike : Alike (fun _ => Eq) ms ns := .of_perm hnodup hperm
      refine bind_eq_ok.2 ⟨ns, bind_eq_ok.2 ⟨(), ?_, rfl⟩, ?_⟩
      · exact checkAll_of_alike halike (fun _ _ _ _ hvw hv => hvw ▸ hv) hall
      · rw [← hread (lookup_of_perm hnodup hperm)]
        exact ha

end Field

/-! ## Reading parts -/

section Parts

open TypeCatalog.Field

variable {x y : Json} (h : Json.Reordered x y)

include h

/-- An example is read to the same one, whatever the order of its members is. -/
theorem Example.decode_of_reordered {e : Example} (he : Example.decode x = .ok e) :
    Example.decode y = .ok e :=
  members_of_reordered (fun hlookup => by simp only [Field.get, Field.get?, hlookup]) h he

/-- An item of an enum is read to the same one. -/
theorem EnumItem.decode_of_reordered {item : EnumItem} (hitem : EnumItem.decode x = .ok item) :
    EnumItem.decode y = .ok item :=
  members_of_reordered (fun hlookup => by simp only [Field.get, Field.get?, hlookup]) h hitem

/-- A property is read to the same one. -/
theorem Property.decode_of_reordered {p : Property} (hp : Property.decode x = .ok p) :
    Property.decode y = .ok p :=
  members_of_reordered (fun hlookup => by simp only [Field.get, Field.get?, hlookup]) h hp

/-- A variant is read to the same one. -/
theorem Variant.decode_of_reordered {v : Variant} (hv : Variant.decode x = .ok v) :
    Variant.decode y = .ok v :=
  members_of_reordered (fun hlookup => by simp only [Field.get, Field.get?, hlookup]) h hv

end Parts

/-- A list of examples is read to the same one, since its items are. -/
theorem Example.overlooks_decodeList (field : String) : Example.decodeList.Overlooks field :=
  Decoder.overlooks_list fun h => Example.decode_of_reordered h

/-! ## Reading a definition -/

section Definitions

open TypeCatalog.Field

variable {ms ns : Members}

/-- Of the fields of a header `examples` holds parts, and overlooks their order; the others hold
none. -/
theorem Header.overlooks_fields : ∀ f ∈ Header.fields, f.Overlooks := by
  simp only [Header.fields, List.forall_mem_cons]
  exact ⟨overlooks_of_notMem (by decide), overlooks_of_notMem (by decide),
    overlooks_of_notMem (by decide), overlooks_of_notMem (by decide),
    overlooks_of_notMem (by decide), overlooks_of_notMem (by decide),
    overlooks_of_notMem (by decide), overlooks_optional (Example.overlooks_decodeList _),
    List.forall_mem_nil _⟩

/-- Both lists of cases overlook the order of the members of their cases. -/
theorem TestCases.overlooks_fields : ∀ f ∈ TestCases.fields, f.Overlooks := by
  simp only [TestCases.fields, List.forall_mem_cons]
  exact ⟨overlooks_optional (Example.overlooks_decodeList _),
    overlooks_optional (Example.overlooks_decodeList _), List.forall_mem_nil _⟩

/-- The fields of a body overlook it for each kind: its lists of parts do so item by item, and its
other fields hold no parts. -/
theorem Body.overlooks_fields (kind : TypeKind) : ∀ f ∈ Body.fields kind, f.Overlooks := by
  -- The kinds without parts of their own have only the lists of cases beside their plain fields.
  have hplain (fields : List Field) (hfields : ∀ f ∈ fields, f.name ∉ partFields) :
      ∀ f ∈ fields ++ TestCases.fields, f.Overlooks :=
    List.forall_mem_append.2
      ⟨fun f hf => overlooks_of_notMem (hfields f hf), TestCases.overlooks_fields⟩
  cases kind with
  | bool => exact TestCases.overlooks_fields
  | enum =>
      simp only [Body.fields, List.forall_mem_cons]
      exact ⟨overlooks_required (Decoder.overlooks_list fun h => EnumItem.decode_of_reordered h),
        overlooks_of_notMem (by decide), List.forall_mem_nil _⟩
  | record =>
      simp only [Body.fields, List.forall_mem_cons]
      exact ⟨overlooks_required (Decoder.overlooks_list fun h => Property.decode_of_reordered h),
        overlooks_of_notMem (by decide),
        overlooks_optional (Decoder.overlooks_list fun h => Variant.decode_of_reordered h),
        overlooks_required (Example.overlooks_decodeList _),
        overlooks_optional (Example.overlooks_decodeList _), List.forall_mem_nil _⟩
  | _ => exact hplain _ (by simp only [List.forall_mem_cons]; decide)

/-- Fields without parts hold the same in another order. -/
theorem Alike.get_eq {α : Type} (h : Alike FieldReordered ms ns) (d : Decoder α) {name : String}
    (hname : name ∉ partFields) : Field.get d name ms = Field.get d name ns := by
  unfold Field.get
  rw [h.lookup_eq hname]

/-- An optional field without parts is read to the same value. -/
theorem Alike.get?_eq {α : Type} (h : Alike FieldReordered ms ns) (d : Decoder α) {name : String}
    (hname : name ∉ partFields) : Field.get? d name ms = Field.get? d name ns := by
  unfold Field.get?
  rw [h.lookup_eq hname]

variable (h : Alike FieldReordered ms ns)

include h

/-- A header is read to the same one. -/
theorem Header.decode_of_alike {header : Header} (hms : Header.decode ms = .ok header) :
    Header.decode ns = .ok header := by
  obtain ⟨_, hall, -⟩ := bind_eq_ok.1 hms
  have hexamples :=
    get?_of_alike (Example.overlooks_decodeList _) h (fields_of_decode hms).2.2.2.2.2.2.2
  have hns := checkAll_of_alike h overlooks_fields hall
  obtain ⟨h₁, h₂, h₃, h₄, h₅, h₆, h₇, -⟩ := fields_of_decode hms
  simp (disch := decide) only [h.get_eq, h.get?_eq] at h₁ h₂ h₃ h₄ h₅ h₆ h₇
  simp only [Header.decode, hns, h₁, h₂, h₃, h₄, h₅, h₆, h₇, hexamples, bind, Except.bind, pure,
    Except.pure]

/-- The cases are read to the same ones. -/
theorem TestCases.decode_of_alike {cases : TestCases} (hms : TestCases.decode ms = .ok cases) :
    TestCases.decode ns = .ok cases := by
  obtain ⟨hvalid, hinvalid⟩ := fields_of_decode hms
  exact bind_eq_ok.2 ⟨_, get?_of_alike (Example.overlooks_decodeList _) h hvalid,
    bind_eq_ok.2 ⟨_, get?_of_alike (Example.overlooks_decodeList _) h hinvalid, rfl⟩⟩

/-- A body of any kind is read to the same one: its parts with `get_of_alike`, its plain fields by
equality. -/
theorem Body.decode_of_alike {kind : TypeKind} {body : Body}
    (hms : Body.decode kind ms = .ok body) : Body.decode kind ns = .ok body := by
  -- The kind of the body that was read says which fields there are; each of them is read again on
  -- the other side.
  obtain ⟨_, hall, -⟩ := bind_eq_ok.1 hms
  have hns := checkAll_of_alike h (overlooks_fields kind) hall
  have hkind := kind_of_decode_body hms
  cases body with
  | bool cases =>
      obtain rfl : TypeKind.bool = kind := hkind
      obtain ⟨_, -, hms⟩ := bind_eq_ok.1 hms
      obtain ⟨cases', hcases, heq⟩ := bind_eq_ok.1 hms
      cases heq
      replace hcases := TestCases.decode_of_alike h hcases
      simp only [Body.decode, hns, hcases, bind, Except.bind, pure, Except.pure]
  | enum b =>
      obtain rfl : TypeKind.enum = kind := hkind
      obtain ⟨hitems, hdata⟩ := EnumBody.fields_of_decode hms
      replace hitems := get_of_alike
        (Decoder.overlooks_list fun h => EnumItem.decode_of_reordered h) h hitems
      rw [h.get?_eq _ (by decide)] at hdata
      simp only [Body.decode, hns, hitems, hdata, bind, Except.bind, pure, Except.pure]
  | int b =>
      obtain rfl : TypeKind.int = kind := hkind
      obtain ⟨h₁, h₂, hcases⟩ := IntBody.fields_of_decode hms
      replace hcases := TestCases.decode_of_alike h hcases
      simp (disch := decide) only [h.get_eq] at h₁ h₂
      simp only [Body.decode, hns, h₁, h₂, hcases, bind, Except.bind, pure, Except.pure]
  | float b =>
      obtain rfl : TypeKind.float = kind := hkind
      obtain ⟨h₁, h₂, h₃, h₄, hcases⟩ := FloatBody.fields_of_decode hms
      replace hcases := TestCases.decode_of_alike h hcases
      simp (disch := decide) only [h.get_eq, h.get?_eq] at h₁ h₂ h₃ h₄
      simp only [Body.decode, hns, h₁, h₂, h₃, h₄, hcases, bind, Except.bind, pure, Except.pure]
  | string b =>
      obtain rfl : TypeKind.string = kind := hkind
      obtain ⟨h₁, h₂, h₃, hcases⟩ := StringBody.fields_of_decode hms
      replace hcases := TestCases.decode_of_alike h hcases
      simp (disch := decide) only [h.get_eq, h.get?_eq] at h₁ h₂ h₃
      simp only [Body.decode, hns, h₁, h₂, h₃, hcases, bind, Except.bind, pure, Except.pure]
  | object b =>
      obtain rfl : TypeKind.object = kind := hkind
      obtain ⟨hschema, hcases⟩ := ObjectBody.fields_of_decode hms
      replace hcases := TestCases.decode_of_alike h hcases
      rw [h.get_eq _ (by decide)] at hschema
      simp only [Body.decode, hns, hschema, hcases, bind, Except.bind, pure, Except.pure]
  | record r =>
      obtain rfl : TypeKind.record = kind := hkind
      obtain ⟨hproperties, hrequired, hvariants, hvalid, hinvalid⟩ :=
        RecordBody.fields_of_decode hms
      replace hproperties := get_of_alike
        -- The three lists of parts of a record are read again each with its own decoder; the names
        -- are equal.
        (Decoder.overlooks_list fun h => Property.decode_of_reordered h) h hproperties
      replace hvariants := get?_of_alike
        (Decoder.overlooks_list fun h => Variant.decode_of_reordered h) h hvariants
      replace hvalid := get_of_alike (Example.overlooks_decodeList _) h hvalid
      replace hinvalid := get?_of_alike (Example.overlooks_decodeList _) h hinvalid
      rw [h.get?_eq _ (by decide)] at hrequired
      simp only [Body.decode, hns, hproperties, hrequired, hvariants, hvalid, hinvalid, bind,
        Except.bind, pure, Except.pure]

end Definitions

/-- What is read of a definition is read of it in another order. -/
theorem Definition.decode_of_reordered {v w : Json} (h : Reordered v w) {d : Definition} :
    decode v = .ok d ↔ decode w = .ok d := by
  have hforward {ms ns : Members} (h : Alike FieldReordered ms ns)
      (hd : decode (.object ms) = .ok d) : decode (.object ns) = .ok d := by
    obtain ⟨kind, hkind, hd⟩ := bind_eq_ok.1 hd
    obtain ⟨body, hbody, hd⟩ := bind_eq_ok.1 hd
    obtain ⟨header, hheader, hd⟩ := bind_eq_ok.1 hd
    rw [h.get_eq _ (by decide)] at hkind
    exact bind_eq_ok.2 ⟨kind, hkind, bind_eq_ok.2 ⟨body, Body.decode_of_alike h hbody,
      bind_eq_ok.2 ⟨header, Header.decode_of_alike h hheader, hd⟩⟩⟩
  obtain rfl | ⟨ms, ns, rfl, rfl, halike⟩ := h.eq_or_alike
  · exact Iff.rfl
  · exact ⟨hforward halike, hforward (halike.symm FieldReordered.symm)⟩

end TypeCatalog
