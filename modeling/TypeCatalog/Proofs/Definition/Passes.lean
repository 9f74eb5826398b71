import TypeCatalog.Definition.Shape

/-!
# The two passes over a raw definition

The documented pass is the functional pass with the documentation rules put in. `errorsOf` takes
them out again, and `errorsOf_check` says of the whole check what one lemma says of each of its
parts: the errors of a pass are the functional pass. Two facts follow. No functional violation is
about documentation, and every warning is. The main statement, `documented_split`, puts them
together: the documented pass is the functional pass and the warnings, and nothing else.
-/

set_option autoImplicit false

namespace TypeCatalog.Shape

/-- The violations of rules that do not ask for documentation. -/
def errorsOf (vs : List Violation) : List Violation := vs.filter fun v => !v.rule.isDocumentation

/-! ## Building blocks -/

/-- No violations, no errors among them. -/
@[simp]
theorem errorsOf_nil : errorsOf [] = [] := rfl

/-- The errors of two lists, one behind the other, are those of each. -/
@[simp]
theorem errorsOf_append (vs ws : List Violation) :
    errorsOf (vs ++ ws) = errorsOf vs ++ errorsOf ws :=
  List.filter_append ..

/-- The errors of a list are found one violation at a time. -/
theorem errorsOf_cons (v : Violation) (vs : List Violation) :
    errorsOf (v :: vs) = if v.rule.isDocumentation then errorsOf vs else v :: errorsOf vs := by
  unfold errorsOf
  rw [List.filter_cons]
  cases v.rule.isDocumentation <;> rfl

/-- The errors of what is reported item by item are found item by item. -/
theorem errorsOf_flatMap {α : Type} (f : α → List Violation) (xs : List α) :
    errorsOf (xs.flatMap f) = xs.flatMap fun x => errorsOf (f x) :=
  List.filter_flatMap ..

/-- Nothing is taken out where no rule asks for documentation. -/
theorem errorsOf_eq_self {vs : List Violation} (h : ∀ v ∈ vs, v.rule.isDocumentation = false) :
    errorsOf vs = vs :=
  List.filter_eq_self.2 fun v hv => by rw [h v hv]; rfl

/-- A violation of a functional rule under a condition is kept. -/
theorem errorsOf_when (condition : Bool) {rule : Rule} (path message : String)
    (h : rule.isDocumentation = false) :
    errorsOf (when condition rule path message) = when condition rule path message := by
  refine errorsOf_eq_self fun v hv => ?_
  unfold when at hv
  split at hv
  · rw [List.mem_singleton] at hv
    rw [hv]
    exact h
  · cases hv

/-- A note is there in the documented pass only. -/
theorem errorsOf_summaryNote (notes : Bool) {rule : Rule} (path message : String)
    (summary : Option Json) (h : rule.isDocumentation = true) :
    errorsOf (summaryNote notes rule path message summary)
      = summaryNote false rule path message summary := by
  unfold summaryNote when
  split
  · rw [errorsOf_cons]
    simp [Violation.plain, h]
  · rfl

/-- The violations for unknown fields are all functional. -/
theorem errorsOf_unknownFields {rule : Rule} (pathTo : String → String) (fields : List String)
    (suffix : String) (ms : Members) (h : rule.isDocumentation = false) :
    errorsOf (unknownFields rule pathTo fields suffix ms)
      = unknownFields rule pathTo fields suffix ms := by
  refine errorsOf_eq_self fun v hv => ?_
  obtain ⟨_, _, rfl⟩ := List.mem_map.1 hv
  exact h

/-- A check of a list item by item has the errors of each check. -/
theorem errorsOf_eachItem {check check' : Nat → Json → List Violation} (items : List Json)
    (h : ∀ i x, errorsOf (check i x) = check' i x) :
    errorsOf (eachItem check items) = eachItem check' items := by
  unfold eachItem
  rw [errorsOf_flatMap]
  simp only [h]

/-! ## The header and the cases -/

/-- The documented check of an example has the errors of the functional one. -/
theorem errorsOf_checkExample (notes : Bool) (path : String) (v : Json) :
    errorsOf (checkExample notes path v) = checkExample false path v := by
  unfold checkExample
  split
  · simp only [errorsOf_append]
    rw [errorsOf_when _ _ _ rfl, errorsOf_when _ _ _ rfl, errorsOf_unknownFields _ _ _ _ rfl,
      errorsOf_summaryNote _ _ _ _ rfl]
  · rfl

/-- So has that of a list of examples. -/
theorem errorsOf_checkExamples (notes isRequired : Bool) (field : String) (ms : Members) :
    errorsOf (checkExamples notes isRequired field ms)
      = checkExamples false isRequired field ms := by
  unfold checkExamples
  split
  · exact errorsOf_when _ _ _ rfl
  · exact errorsOf_eachItem _ fun i => errorsOf_checkExample notes (itemPath field i)
  · rfl

/-- Cases have no documentation rules at all. -/
theorem errorsOf_checkTestCases (validRequired : Bool) (ms : Members) :
    errorsOf (checkTestCases validRequired ms) = checkTestCases validRequired ms := by
  unfold checkTestCases
  rw [errorsOf_append, errorsOf_checkExamples, errorsOf_checkExamples]

/-- Nor have names that have to be identifiers. -/
theorem errorsOf_checkIdentifier {rule : Rule} (field title : String) (ms : Members)
    (h : rule.isDocumentation = false) :
    errorsOf (checkIdentifier rule field title ms) = checkIdentifier rule field title ms := by
  unfold checkIdentifier
  split
  · exact errorsOf_when _ _ _ h
  · exact errorsOf_eq_self fun v hv => by rw [List.mem_singleton.1 hv]; exact h

/-- A header has the rule for its summary, which is taken out. -/
theorem errorsOf_checkHeader (notes : Bool) (ms : Members) :
    errorsOf (checkHeader notes ms) = checkHeader false ms := by
  unfold checkHeader
  simp only [errorsOf_append, errorsOf_flatMap]
  rw [errorsOf_checkIdentifier _ _ _ rfl, errorsOf_checkIdentifier _ _ _ rfl,
    errorsOf_summaryNote _ _ _ _ rfl, errorsOf_when _ _ _ rfl, errorsOf_checkExamples]
  simp only [errorsOf_when _ _ _ (show Rule.invalidSummary.isDocumentation = false from rfl),
    errorsOf_when _ _ _ (show Rule.invalidStringList.isDocumentation = false from rfl)]

/-! ## Numbers and texts -/

/-- The bounds of an int are checked by functional rules. -/
theorem errorsOf_checkInt (ms : Members) : errorsOf (checkInt ms) = checkInt ms := by
  unfold checkInt checkTyped
  rw [errorsOf_append, errorsOf_append, errorsOf_when _ _ _ rfl, errorsOf_when _ _ _ rfl]
  congr 1
  split
  · split <;> rfl
  · rfl

/-- So are those of a float. -/
theorem errorsOf_checkFloat (ms : Members) : errorsOf (checkFloat ms) = checkFloat ms := by
  unfold checkFloat checkTyped
  simp only [errorsOf_append, errorsOf_flatMap]
  rw [errorsOf_when _ _ _ rfl, errorsOf_when _ _ _ rfl]
  simp only [errorsOf_when _ _ _ (show Rule.missingField.isDocumentation = false from rfl)]
  congr 1
  split
  · split <;> rfl
  · rfl

/-- So is the pattern of a string. -/
theorem errorsOf_checkRegex (ms : Members) : errorsOf (checkRegex ms) = checkRegex ms := by
  unfold checkRegex
  split
  · rfl
  · split <;> rfl
  · rfl

/-- So are the lengths of a string. -/
theorem errorsOf_checkString (ms : Members) : errorsOf (checkString ms) = checkString ms := by
  unfold checkString checkTyped
  simp only [errorsOf_append]
  rw [errorsOf_when _ _ _ rfl, errorsOf_when _ _ _ rfl, errorsOf_checkRegex]
  congr 2
  split
  · exact errorsOf_when _ _ _ rfl
  · rfl

/-! ## Enums -/

/-- So is the value of an item, with the values seen before it. -/
theorem errorsOf_checkItemValue (i : Nat) (seen : List (String × Nat)) (item : Json) :
    errorsOf (checkItemValue i seen item) = checkItemValue i seen item := by
  unfold checkItemValue
  dsimp only
  split
  · rfl
  · split <;> rfl

/-- The fields of an item have the rule for its summary, which is taken out. -/
theorem errorsOf_checkItemFields (notes : Bool) (i : Nat) (ms : Members) :
    errorsOf (checkItemFields notes i ms) = checkItemFields false i ms := by
  unfold checkItemFields
  simp only [errorsOf_append, errorsOf_flatMap]
  rw [errorsOf_when _ _ _ rfl, errorsOf_unknownFields _ _ _ _ rfl, errorsOf_summaryNote _ _ _ _ rfl]
  simp only [errorsOf_when _ _ _ (show Rule.invalidEnumItem.isDocumentation = false from rfl)]

/-- So in the whole list of items: the table of seen values does not depend on the pass. -/
theorem errorsOf_checkItems (notes : Bool) (i : Nat) (seen : List (String × Nat))
    (items : List Json) :
    errorsOf (checkItems notes i seen items) = checkItems false i seen items := by
  fun_induction checkItems notes i seen items with
  | case1 => rfl
  | case2 i seen ms items ih =>
      rw [errorsOf_append, errorsOf_append, errorsOf_checkItemValue, errorsOf_checkItemFields, ih]
      rfl
  | case3 i seen x items h ih =>
      rw [errorsOf_cons, ih]
      cases x with
      | object ms => exact absurd rfl (h ms)
      | _ => rfl

/-- So in an enum. -/
theorem errorsOf_checkEnum (notes : Bool) (ms : Members) :
    errorsOf (checkEnum notes ms) = checkEnum false ms := by
  unfold checkEnum
  rw [errorsOf_append, errorsOf_when _ _ _ rfl]
  congr 1
  split
  · rfl
  · rw [errorsOf_append, errorsOf_when _ _ _ rfl, errorsOf_checkItems]

/-! ## Records -/

/-- The name of a property is checked by functional rules. -/
theorem errorsOf_checkPropertyName (i : Nat) (declared : List String) (ms : Members) :
    errorsOf (checkPropertyName i declared ms) = checkPropertyName i declared ms := by
  unfold checkPropertyName
  dsimp only
  split
  · rfl
  · split
    · split <;> rfl
    · rfl

/-- The fields of a property have the rule for its summary, which is taken out. -/
theorem errorsOf_checkPropertyFields (notes : Bool) (i : Nat) (ms : Members) :
    errorsOf (checkPropertyFields notes i ms) = checkPropertyFields false i ms := by
  unfold checkPropertyFields
  simp only [errorsOf_append, errorsOf_flatMap]
  rw [errorsOf_when _ _ _ rfl, errorsOf_when _ _ _ rfl, errorsOf_unknownFields _ _ _ _ rfl,
    errorsOf_summaryNote _ _ _ _ rfl]
  simp only [errorsOf_when _ _ _ (show Rule.invalidProperty.isDocumentation = false from rfl)]

/-- So in the whole list of properties: the names declared before do not depend on the pass. -/
theorem errorsOf_checkPropertyList (notes : Bool) (i : Nat) (declared : List String)
    (properties : List Json) :
    errorsOf (checkPropertyList notes i declared properties)
      = checkPropertyList false i declared properties := by
  fun_induction checkPropertyList notes i declared properties with
  | case1 => rfl
  | case2 i declared ms properties ih =>
      rw [errorsOf_append, errorsOf_append, errorsOf_checkPropertyName,
        errorsOf_checkPropertyFields, ih]
      rfl
  | case3 i declared x properties h ih =>
      rw [errorsOf_cons, ih]
      cases x with
      | object ms => exact absurd rfl (h ms)
      | _ => rfl

/-- So under `properties`. -/
theorem errorsOf_checkProperties (notes : Bool) (ms : Members) :
    errorsOf (checkProperties notes ms) = checkProperties false ms := by
  unfold checkProperties
  split
  · rfl
  · rw [errorsOf_append, errorsOf_when _ _ _ rfl, errorsOf_checkPropertyList]

/-- The rule for undeclared names is functional, where it is stated so. -/
theorem errorsOf_undeclared {rule : Rule} (path noun : String) (declared names : List String)
    (h : rule.isDocumentation = false) :
    errorsOf (undeclared rule path noun declared names)
      = undeclared rule path noun declared names := by
  refine errorsOf_eq_self fun v hv => ?_
  obtain ⟨_, _, hv⟩ := List.mem_flatMap.1 hv
  dsimp only at hv
  split at hv
  · cases hv
  · rw [List.mem_singleton.1 hv]
    exact h

/-- The list `required` is checked by functional rules. -/
theorem errorsOf_checkRequiredList (declared : List String) (ms : Members) :
    errorsOf (checkRequiredList declared ms) = checkRequiredList declared ms := by
  unfold checkRequiredList
  split
  · rfl
  · split
    · exact errorsOf_undeclared _ _ _ _ rfl
    · rfl

/-- So is the name of a variant. -/
theorem errorsOf_checkVariantName (i : Nat) (seen : List String) (variant : Json) :
    errorsOf (checkVariantName i seen variant) = checkVariantName i seen variant := by
  unfold checkVariantName
  dsimp only
  split
  · rfl
  · split <;> rfl

/-- The fields of a variant have the rule for its summary, which is taken out. -/
theorem errorsOf_checkVariantFields (notes : Bool) (i : Nat) (declared : List String)
    (ms : Members) :
    errorsOf (checkVariantFields notes i declared ms) = checkVariantFields false i declared ms := by
  unfold checkVariantFields
  simp only [errorsOf_append, errorsOf_flatMap]
  rw [errorsOf_when _ _ _ rfl, errorsOf_when _ _ _ rfl, errorsOf_unknownFields _ _ _ _ rfl,
    errorsOf_summaryNote _ _ _ _ rfl]
  congr 4
  refine congrArg (List.flatMap · _) (funext fun k => ?_)
  split
  · rfl
  · split
    · rfl
    · exact errorsOf_undeclared _ _ _ _ rfl

/-- So in the whole list of variants. -/
theorem errorsOf_checkVariantList (notes : Bool) (declared : List String) (i : Nat)
    (seen : List String) (variants : List Json) :
    errorsOf (checkVariantList notes declared i seen variants)
      = checkVariantList false declared i seen variants := by
  fun_induction checkVariantList notes declared i seen variants with
  | case1 => rfl
  | case2 i seen ms variants ih =>
      rw [errorsOf_append, errorsOf_append, errorsOf_checkVariantName,
        errorsOf_checkVariantFields, ih]
      rfl
  | case3 i seen x variants h ih =>
      rw [errorsOf_cons, ih]
      cases x with
      | object ms => exact absurd rfl (h ms)
      | _ => rfl

/-- So under `variants`. -/
theorem errorsOf_checkVariants (notes : Bool) (declared : List String) (ms : Members) :
    errorsOf (checkVariants notes declared ms) = checkVariants false declared ms := by
  unfold checkVariants
  split
  · rfl
  · exact errorsOf_checkVariantList ..
  · rfl

/-- So in a record. -/
theorem errorsOf_checkRecord (notes : Bool) (ms : Members) :
    errorsOf (checkRecord notes ms) = checkRecord false ms := by
  unfold checkRecord
  rw [errorsOf_append, errorsOf_append, errorsOf_checkProperties, errorsOf_checkRequiredList,
    errorsOf_checkVariants]

/-! ## The definition -/

/-- The check of the kind is functional. -/
theorem errorsOf_checkKind (ms : Members) : errorsOf (checkKind ms) = checkKind ms := by
  unfold checkKind
  split
  · rfl
  · exact errorsOf_when _ _ _ rfl

/-- So in a body of any kind: the parts that take the pass as an argument are the only ones that
change. -/
theorem errorsOf_checkBody (notes : Bool) (kind : TypeKind) (ms : Members) :
    errorsOf (checkBody notes kind ms) = checkBody false kind ms := by
  cases kind with
  | bool => exact errorsOf_checkTestCases ..
  | enum => exact errorsOf_checkEnum ..
  | int =>
      show errorsOf (checkInt ms ++ checkTestCases false ms) = _
      rw [errorsOf_append, errorsOf_checkInt, errorsOf_checkTestCases]
      rfl
  | float =>
      show errorsOf (checkFloat ms ++ checkTestCases false ms) = _
      rw [errorsOf_append, errorsOf_checkFloat, errorsOf_checkTestCases]
      rfl
  | string =>
      show errorsOf (checkString ms ++ checkTestCases false ms) = _
      rw [errorsOf_append, errorsOf_checkString, errorsOf_checkTestCases]
      rfl
  | object =>
      unfold checkBody
      dsimp only
      rw [errorsOf_append, errorsOf_when _ _ _ rfl, errorsOf_checkTestCases]
  | record =>
      show errorsOf (checkRecord notes ms ++ checkTestCases true ms) = _
      rw [errorsOf_append, errorsOf_checkRecord, errorsOf_checkTestCases]
      rfl

/-- The violations of a pass whose rules do not ask for documentation are the functional pass, in
the same order. -/
theorem errorsOf_check (notes : Bool) (v : Json) : errorsOf (check notes v) = violations v := by
  unfold violations check
  split
  · rw [errorsOf_append, errorsOf_append, errorsOf_checkKind, errorsOf_checkHeader]
    congr 1
    split
    · rfl
    · rw [errorsOf_append, errorsOf_unknownFields _ _ _ _ rfl, errorsOf_checkBody]
  · rfl

/-- No functional violation is about documentation. -/
theorem not_isDocumentation_of_mem_violations {j : Json} {v : Violation} (h : v ∈ violations j) :
    v.rule.isDocumentation = false := by
  rw [← errorsOf_check false] at h
  simpa using (List.mem_filter.1 h).2

/-- The warnings are the violations of the documented pass that are about documentation. They are
told from the others by rule and path, and no rule and path of theirs is one of an error. -/
theorem warnings_eq_filter (j : Json) :
    warnings (violations j) (documented j) = (documented j).filter (·.rule.isDocumentation) := by
  refine List.filter_congr fun v hv => ?_
  cases hdoc : v.rule.isDocumentation with
  | true =>
      -- A functional violation of the same rule and path would be one of documentation.
      rw [Bool.not_eq_true', List.any_eq_false]
      intro f hf hsame
      have hrule : f.rule = v.rule := of_decide_eq_true (Bool.and_eq_true_iff.1 hsame).1
      have hfunctional := not_isDocumentation_of_mem_violations hf
      rw [hrule, hdoc] at hfunctional
      cases hfunctional
  | false =>
      -- What is not about documentation is found by the functional pass itself.
      have hfunctional : v ∈ violations j := by
        rw [← errorsOf_check true]
        exact List.mem_filter.2 ⟨hv, by rw [hdoc]; rfl⟩
      rw [Bool.not_eq_false', List.any_eq_true]
      exact ⟨v, hfunctional, by simp⟩

/-- Every warning is about documentation: the documented pass adds no other violations to the
functional one. -/
theorem isDocumentation_of_mem_warnings {j : Json} {v : Violation}
    (h : v ∈ warnings (violations j) (documented j)) : v.rule.isDocumentation = true := by
  rw [warnings_eq_filter] at h
  exact (List.mem_filter.1 h).2

/-- The documented pass falls into the functional pass and the warnings, each with its violations
as they are and in their order. Nothing is in both: what the functional pass finds is an error and
what the warnings hold is none, whatever type it is told of. -/
theorem documented_split (j : Json) :
    (documented j).filter (!·.rule.isDocumentation) = violations j
      ∧ warnings (violations j) (documented j) = (documented j).filter (·.rule.isDocumentation)
      ∧ (∀ v ∈ violations j, ∀ typeName, (v.toDiagnostic typeName).severity = .error)
      ∧ ∀ v ∈ warnings (violations j) (documented j), ∀ typeName,
        (v.toDiagnostic typeName).severity = .warning := by
  refine ⟨errorsOf_check true j, warnings_eq_filter j, fun v hv typeName => ?_,
    fun v hv typeName => ?_⟩
  -- The severity goes by the kind of the rule, and only documentation is a warning.
  · have hrule := not_isDocumentation_of_mem_violations hv
    show v.rule.kind.severity = .error
    unfold Rule.isDocumentation at hrule
    cases hkind : v.rule.kind with
    | documentation =>
        rw [hkind] at hrule
        cases hrule
    | _ => rfl
  · have hrule := isDocumentation_of_mem_warnings hv
    show v.rule.kind.severity = .warning
    rw [of_decide_eq_true hrule]
    rfl

end TypeCatalog.Shape
