import TypeCatalog.Proofs.Definition.Passes

/-!
# The rules of the functional pass

A rule is looked at in one place of the program. The functional pass looks at those of the shape of
a definition (`Rule.isOfShape`), and at no others: what asks for documentation is left to the
documented pass, and whether a definition can be read, has a name of its own and refers to types
that exist is found out behind it. A list of violations `Stays` with the shape if all its rules do.
There is one lemma for each way of putting violations together, and then one for each part of the
check.
-/

set_option autoImplicit false

namespace TypeCatalog

namespace Rule

/-- Whether a rule is about the shape of a single definition. -/
def isOfShape : Rule → Bool
  | shape | duplicateTypeName | unknownPropertyType | unknownDataType => false
  | r => !r.isDocumentation

end Rule

namespace Shape

/-- Whether all violations are of rules about the shape. -/
def Stays (vs : List Violation) : Prop := vs.all (·.rule.isOfShape) = true

/-- A list stays among the rules of the shape when each of its violations does. -/
theorem stays_iff {vs : List Violation} : Stays vs ↔ ∀ v ∈ vs, v.rule.isOfShape = true :=
  List.all_eq_true

/-! ## Building blocks -/

/-- Nothing reported stays among them. -/
theorem stays_nil : Stays [] := rfl

/-- A list does when its first violation and the others do. -/
theorem stays_cons {v : Violation} {vs : List Violation} :
    Stays (v :: vs) ↔ v.rule.isOfShape = true ∧ Stays vs := by
  unfold Stays
  rw [List.all_cons, Bool.and_eq_true]

/-- Two lists do when each of them does. -/
theorem stays_append {vs ws : List Violation} : Stays (vs ++ ws) ↔ Stays vs ∧ Stays ws := by
  unfold Stays
  rw [List.all_append, Bool.and_eq_true]

/-- What is reported item by item does when what is reported of each item does. -/
theorem stays_flatMap {α : Type} {xs : List α} {f : α → List Violation}
    (h : ∀ x ∈ xs, Stays (f x)) : Stays (xs.flatMap f) := by
  refine stays_iff.2 fun v hv => ?_
  obtain ⟨x, hx, hv⟩ := List.mem_flatMap.1 hv
  exact stays_iff.1 (h x hx) v hv

/-- A violation of a rule of the shape does. -/
theorem stays_plain {rule : Rule} (path message : String) (h : rule.isOfShape = true) :
    Stays [.plain rule path message] :=
  stays_cons.2 ⟨h, stays_nil⟩

/-- And so it does under a condition. -/
theorem stays_when (condition : Bool) {rule : Rule} (path message : String)
    (h : rule.isOfShape = true) : Stays (when condition rule path message) := by
  unfold when
  split
  · exact stays_plain path message h
  · exact stays_nil

/-- There are no notes in the functional pass. -/
theorem stays_summaryNote (rule : Rule) (path message : String) (summary : Option Json) :
    Stays (summaryNote false rule path message summary) :=
  stays_nil

/-- Unknown fields have a rule of the shape. -/
theorem stays_unknownFields {rule : Rule} (pathTo : String → String) (fields : List String)
    (suffix : String) (ms : Members) (h : rule.isOfShape = true) :
    Stays (unknownFields rule pathTo fields suffix ms) := by
  refine stays_iff.2 fun v hv => ?_
  obtain ⟨m, -, rfl⟩ := List.mem_map.1 hv
  exact h

/-! ## The header and the cases -/

/-- The rules for examples are rules of the shape. -/
theorem stays_checkExample (path : String) (v : Json) : Stays (checkExample false path v) := by
  unfold checkExample
  split
  · rw [stays_append, stays_append, stays_append]
    exact ⟨⟨⟨stays_when _ _ _ rfl, stays_when _ _ _ rfl⟩, stays_unknownFields _ _ _ _ rfl⟩,
      stays_summaryNote ..⟩
  · exact stays_plain _ _ rfl

/-- So are those for lists of examples. -/
theorem stays_checkExamples (isRequired : Bool) (field : String) (ms : Members) :
    Stays (checkExamples false isRequired field ms) := by
  unfold checkExamples
  split
  · exact stays_when _ _ _ rfl
  · exact stays_flatMap fun item _ => stays_checkExample ..
  · exact stays_plain _ _ rfl

/-- So are those for cases. -/
theorem stays_checkTestCases (validRequired : Bool) (ms : Members) :
    Stays (checkTestCases validRequired ms) :=
  stays_append.2 ⟨stays_checkExamples .., stays_checkExamples ..⟩

/-- So are those for names. -/
theorem stays_checkIdentifier {rule : Rule} (field title : String) (ms : Members)
    (h : rule.isOfShape = true) : Stays (checkIdentifier rule field title ms) := by
  unfold checkIdentifier
  split
  · exact stays_when _ _ _ h
  · exact stays_plain _ _ h

/-- So are those for a header: its names, texts and lists. -/
theorem stays_checkHeader (ms : Members) : Stays (checkHeader false ms) := by
  unfold checkHeader
  simp only [stays_append]
  exact ⟨⟨⟨⟨⟨⟨stays_checkIdentifier _ _ _ rfl, stays_checkIdentifier _ _ _ rfl⟩,
    stays_flatMap fun _ _ => stays_when _ _ _ rfl⟩, stays_summaryNote ..⟩, stays_when _ _ _ rfl⟩,
    stays_flatMap fun _ _ => stays_when _ _ _ rfl⟩, stays_checkExamples ..⟩

/-! ## Numbers and texts -/

/-- So are those for fields that are checked by reading them. -/
theorem stays_checkTyped {α : Type} (as : Json → Option α) (field expected : String)
    (ms : Members) : Stays (checkTyped as field expected ms) :=
  stays_when _ _ _ rfl

/-- So are those for the bounds of an int. -/
theorem stays_checkInt (ms : Members) : Stays (checkInt ms) := by
  unfold checkInt
  refine stays_append.2 ⟨stays_append.2 ⟨stays_checkTyped .., stays_checkTyped ..⟩, ?_⟩
  split
  · split
    · exact stays_cons.2 ⟨rfl, stays_nil⟩
    · exact stays_nil
  · exact stays_nil

/-- So are those for the bounds of a float. -/
theorem stays_checkFloat (ms : Members) : Stays (checkFloat ms) := by
  unfold checkFloat
  refine stays_append.2 ⟨stays_append.2 ⟨stays_append.2 ⟨stays_checkTyped .., stays_checkTyped ..⟩,
    stays_flatMap fun _ _ => stays_when _ _ _ rfl⟩, ?_⟩
  split
  · split
    · exact stays_cons.2 ⟨rfl, stays_nil⟩
    · exact stays_nil
  · exact stays_nil

/-- So are those for a pattern: that it is a text and can be searched for. -/
theorem stays_checkRegex (ms : Members) : Stays (checkRegex ms) := by
  unfold checkRegex
  split
  · exact stays_nil
  · split
    · exact stays_nil
    · exact stays_cons.2 ⟨rfl, stays_nil⟩
  · exact stays_plain _ _ rfl

/-- So are those for the lengths of a string. -/
theorem stays_checkString (ms : Members) : Stays (checkString ms) := by
  unfold checkString
  refine stays_append.2 ⟨stays_append.2 ⟨stays_append.2 ⟨stays_checkTyped ..,
    stays_when _ _ _ rfl⟩, ?_⟩, stays_checkRegex ms⟩
  split
  · exact stays_when _ _ _ rfl
  · exact stays_nil

/-! ## Enums -/

/-- So are those for the value of an item, also where it repeats another one. -/
theorem stays_checkItemValue (i : Nat) (seen : List (String × Nat)) (item : Json) :
    Stays (checkItemValue i seen item) := by
  unfold checkItemValue
  dsimp only
  split
  · exact stays_plain _ _ rfl
  · split
    · exact stays_nil
    · exact stays_cons.2 ⟨rfl, stays_nil⟩

/-- So are those for the other fields of an item. -/
theorem stays_checkItemFields (i : Nat) (ms : Members) : Stays (checkItemFields false i ms) := by
  unfold checkItemFields
  simp only [stays_append]
  exact ⟨⟨⟨stays_when _ _ _ rfl, stays_flatMap fun _ _ => stays_when _ _ _ rfl⟩,
    stays_unknownFields _ _ _ _ rfl⟩, stays_summaryNote ..⟩

/-- So are those for the list of items. -/
theorem stays_checkItems (i : Nat) (seen : List (String × Nat)) (items : List Json) :
    Stays (checkItems false i seen items) := by
  fun_induction checkItems false i seen items with
  | case1 => exact stays_nil
  | case2 i seen ms items ih =>
      exact stays_append.2 ⟨stays_append.2 ⟨stays_checkItemValue .., stays_checkItemFields ..⟩, ih⟩
  | case3 i seen x items h ih => exact stays_cons.2 ⟨rfl, ih⟩

/-- So are those for an enum. -/
theorem stays_checkEnum (ms : Members) : Stays (checkEnum false ms) := by
  unfold checkEnum
  refine stays_append.2 ⟨stays_when _ _ _ rfl, ?_⟩
  split
  · exact stays_plain _ _ rfl
  · exact stays_append.2 ⟨stays_when _ _ _ rfl, stays_checkItems ..⟩

/-! ## Records -/

/-- So are those for the name of a property. -/
theorem stays_checkPropertyName (i : Nat) (declared : List String) (ms : Members) :
    Stays (checkPropertyName i declared ms) := by
  unfold checkPropertyName
  dsimp only
  split
  · exact stays_plain _ _ rfl
  · split
    · split
      · exact stays_cons.2 ⟨rfl, stays_nil⟩
      · exact stays_nil
    · exact stays_plain _ _ rfl

/-- So are those for the other fields of a property. That its type is known is not looked at here.
-/
theorem stays_checkPropertyFields (i : Nat) (ms : Members) :
    Stays (checkPropertyFields false i ms) := by
  unfold checkPropertyFields
  simp only [stays_append]
  exact ⟨⟨⟨⟨stays_when _ _ _ rfl, stays_flatMap fun _ _ => stays_when _ _ _ rfl⟩,
    stays_when _ _ _ rfl⟩, stays_unknownFields _ _ _ _ rfl⟩, stays_summaryNote ..⟩

/-- So are those for the list of properties. -/
theorem stays_checkPropertyList (i : Nat) (declared : List String) (properties : List Json) :
    Stays (checkPropertyList false i declared properties) := by
  fun_induction checkPropertyList false i declared properties with
  | case1 => exact stays_nil
  | case2 i declared ms properties ih =>
      exact stays_append.2 ⟨stays_append.2 ⟨stays_checkPropertyName ..,
        stays_checkPropertyFields ..⟩, ih⟩
  | case3 i declared x properties h ih => exact stays_cons.2 ⟨rfl, ih⟩

/-- So are those under `properties`. -/
theorem stays_checkProperties (ms : Members) : Stays (checkProperties false ms) := by
  unfold checkProperties
  split
  · exact stays_plain _ _ rfl
  · exact stays_append.2 ⟨stays_when _ _ _ rfl, stays_checkPropertyList ..⟩

/-- So are those for undeclared names, where the rule is stated so. -/
theorem stays_undeclared {rule : Rule} (path noun : String) (declared names : List String)
    (h : rule.isOfShape = true) : Stays (undeclared rule path noun declared names) := by
  refine stays_flatMap fun entry _ => ?_
  dsimp only
  split
  · exact stays_nil
  · exact stays_cons.2 ⟨h, stays_nil⟩

/-- So are those for `required`. -/
theorem stays_checkRequiredList (declared : List String) (ms : Members) :
    Stays (checkRequiredList declared ms) := by
  unfold checkRequiredList
  split
  · exact stays_nil
  · split
    · exact stays_undeclared _ _ _ _ rfl
    · exact stays_plain _ _ rfl

/-- So are those for the name of a variant. -/
theorem stays_checkVariantName (i : Nat) (seen : List String) (variant : Json) :
    Stays (checkVariantName i seen variant) := by
  unfold checkVariantName
  dsimp only
  split
  · exact stays_plain _ _ rfl
  · split
    · exact stays_cons.2 ⟨rfl, stays_nil⟩
    · exact stays_nil

/-- So are those for the other fields of a variant. -/
theorem stays_checkVariantFields (i : Nat) (declared : List String) (ms : Members) :
    Stays (checkVariantFields false i declared ms) := by
  unfold checkVariantFields
  simp only [stays_append]
  refine ⟨⟨⟨⟨stays_when _ _ _ rfl, stays_flatMap fun k _ => ?_⟩, stays_when _ _ _ rfl⟩,
    stays_unknownFields _ _ _ _ rfl⟩, stays_summaryNote ..⟩
  split
  · exact stays_nil
  · split
    · exact stays_plain _ _ rfl
    · exact stays_undeclared _ _ _ _ rfl

/-- So are those for the list of variants. -/
theorem stays_checkVariantList (declared : List String) (i : Nat) (seen : List String)
    (variants : List Json) : Stays (checkVariantList false declared i seen variants) := by
  fun_induction checkVariantList false declared i seen variants with
  | case1 => exact stays_nil
  | case2 i seen ms variants ih =>
      exact stays_append.2 ⟨stays_append.2 ⟨stays_checkVariantName ..,
        stays_checkVariantFields ..⟩, ih⟩
  | case3 i seen x variants h ih => exact stays_cons.2 ⟨rfl, ih⟩

/-- So are those under `variants`. -/
theorem stays_checkVariants (declared : List String) (ms : Members) :
    Stays (checkVariants false declared ms) := by
  unfold checkVariants
  split
  · exact stays_nil
  · exact stays_checkVariantList ..
  · exact stays_plain _ _ rfl

/-! ## The definition -/

/-- So are those for the kind. -/
theorem stays_checkKind (ms : Members) : Stays (checkKind ms) := by
  unfold checkKind
  split
  · exact stays_plain _ _ rfl
  · exact stays_when _ _ _ rfl

/-- So are those for a body of any kind: its own fields and its cases. -/
theorem stays_checkBody (kind : TypeKind) (ms : Members) : Stays (checkBody false kind ms) := by
  cases kind with
  | bool => exact stays_checkTestCases ..
  | enum => exact stays_checkEnum ms
  | int => exact stays_append.2 ⟨stays_checkInt ms, stays_checkTestCases ..⟩
  | float => exact stays_append.2 ⟨stays_checkFloat ms, stays_checkTestCases ..⟩
  | string => exact stays_append.2 ⟨stays_checkString ms, stays_checkTestCases ..⟩
  | object => exact stays_append.2 ⟨stays_when _ _ _ rfl, stays_checkTestCases ..⟩
  | record =>
      refine stays_append.2 ⟨stays_append.2 ⟨stays_append.2 ⟨stays_checkProperties ms, ?_⟩, ?_⟩,
        stays_checkTestCases ..⟩
      · exact stays_checkRequiredList ..
      · exact stays_checkVariants ..

/-- The functional pass looks at no other rules than those of the shape. -/
theorem stays_violations (v : Json) : Stays (violations v) := by
  unfold violations check
  split
  · refine stays_append.2 ⟨stays_append.2 ⟨stays_checkKind .., stays_checkHeader ..⟩, ?_⟩
    split
    · exact stays_nil
    · exact stays_append.2 ⟨stays_unknownFields _ _ _ _ rfl, stays_checkBody ..⟩
  · exact stays_plain _ _ rfl

end Shape

end TypeCatalog
