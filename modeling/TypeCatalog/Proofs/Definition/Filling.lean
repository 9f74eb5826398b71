import Mathlib.Data.List.Forall2
import TypeCatalog.Proofs.Definition.Defaults

/-!
# Filling in defaults

`Definition.withDefaults` gives a value to the optional fields that have a default. Which they are
depends on the kind. `IsComplete` says of a header, of a property and of each kind of body that
these fields are declared. `IsKeptIn` compares two definitions: an optional field with a default has
the value after that it had before, if it had one, and all else is the same, also the optional
fields that have no default.

A definition is complete with its defaults, and there is nothing to fill in one that is complete. So
to fill in the defaults twice is the same as once, and `Definition.withDefaults_fills_gaps` says
what is filled in and what is not.
-/

set_option autoImplicit false

namespace TypeCatalog

/-! ## Fields -/

/-- Whether a field that is declared before has the same value after. -/
def IsKeptIn {α : Type} (before after : Option α) : Prop := ∀ x, before = some x → after = some x

/-- A field that is filled in keeps the value that it had. -/
theorem isKeptIn_orDefault {α : Type} (default : α) (field : Option α) :
    IsKeptIn field (orDefault default field) := by
  rintro x rfl
  rfl

/-- A field that is declared is left as it is. -/
theorem orDefault_eq_self {α : Type} {default : α} {field : Option α}
    (h : field.isSome = true) : orDefault default field = field := by
  cases field with
  | none => cases h
  | some x => rfl

/-! ## Headers -/

/-- Whether the fields of a header that have a default are declared. -/
structure Header.IsComplete (h : Header) : Prop where
  title : h.title.isSome = true
  summary : h.summary.isSome = true
  tags : h.tags.isSome = true
  labels : h.labels.isSome = true
  examples : h.examples.isSome = true

/-- Whether a header is the same but for defaults. A reason not to use the type has no default. -/
structure Header.IsKeptIn (before after : Header) : Prop where
  system : after.system = before.system
  name : after.name = before.name
  title : TypeCatalog.IsKeptIn before.title after.title
  summary : TypeCatalog.IsKeptIn before.summary after.summary
  deprecated : after.deprecated = before.deprecated
  tags : TypeCatalog.IsKeptIn before.tags after.tags
  labels : TypeCatalog.IsKeptIn before.labels after.labels
  examples : TypeCatalog.IsKeptIn before.examples after.examples

namespace Header

/-- `Header.withDefaults` changes no field that was declared, and none without a default. -/
theorem isKeptIn_withDefaults (h : Header) : h.IsKeptIn h.withDefaults where
  system := rfl
  name := rfl
  title := isKeptIn_orDefault _ _
  summary := isKeptIn_orDefault _ _
  deprecated := rfl
  tags := isKeptIn_orDefault _ _
  labels := isKeptIn_orDefault _ _
  examples := isKeptIn_orDefault _ _

/-- All fields of a header with a default are declared afterwards. -/
theorem isComplete_withDefaults (h : Header) : h.withDefaults.IsComplete :=
  ⟨rfl, rfl, rfl, rfl, rfl⟩

/-- A header in which they are declared already stays as it is. -/
theorem withDefaults_eq_self {h : Header} (hcomplete : h.IsComplete) : h.withDefaults = h := by
  unfold withDefaults
  rw [orDefault_eq_self hcomplete.title, orDefault_eq_self hcomplete.summary,
    orDefault_eq_self hcomplete.tags, orDefault_eq_self hcomplete.labels,
    orDefault_eq_self hcomplete.examples]

end Header

/-! ## Test cases -/

structure TestCases.IsComplete (c : TestCases) : Prop where
  valid : c.valid.isSome = true
  invalid : c.invalid.isSome = true

structure TestCases.IsKeptIn (before after : TestCases) : Prop where
  valid : TypeCatalog.IsKeptIn before.valid after.valid
  invalid : TypeCatalog.IsKeptIn before.invalid after.invalid

namespace TestCases

/-- `TestCases.withDefaults` adds empty lists and changes none that is there. -/
theorem isKeptIn_withDefaults (c : TestCases) : c.IsKeptIn c.withDefaults where
  valid := isKeptIn_orDefault _ _
  invalid := isKeptIn_orDefault _ _

/-- Both lists of cases are there afterwards. -/
theorem isComplete_withDefaults (c : TestCases) : c.withDefaults.IsComplete := ⟨rfl, rfl⟩

/-- Cases that have both lists stay as they are. -/
theorem withDefaults_eq_self {c : TestCases} (h : c.IsComplete) : c.withDefaults = c := by
  unfold withDefaults
  rw [orDefault_eq_self h.valid, orDefault_eq_self h.invalid]

end TestCases

/-! ## Properties -/

structure Property.IsComplete (p : Property) : Prop where
  isArray : p.isArray.isSome = true
  isRequired : p.isRequired.isSome = true

/-- Whether a property is the same but for its flags. A summary has no default. -/
structure Property.IsKeptIn (before after : Property) : Prop where
  name : after.name = before.name
  summary : after.summary = before.summary
  propertyType : after.propertyType = before.propertyType
  isArray : TypeCatalog.IsKeptIn before.isArray after.isArray
  isRequired : TypeCatalog.IsKeptIn before.isRequired after.isRequired

namespace Property

/-- `Property.withDefaults` keeps what the property declares. -/
theorem isKeptIn_withDefaults (p : Property) : p.IsKeptIn p.withDefaults where
  name := rfl
  summary := rfl
  propertyType := rfl
  isArray := isKeptIn_orDefault _ _
  isRequired := isKeptIn_orDefault _ _

/-- Both marks of a property are declared afterwards. -/
theorem isComplete_withDefaults (p : Property) : p.withDefaults.IsComplete := ⟨rfl, rfl⟩

/-- A property that declares both stays as it is. -/
theorem withDefaults_eq_self {p : Property} (h : p.IsComplete) : p.withDefaults = p := by
  unfold withDefaults
  rw [orDefault_eq_self h.isArray, orDefault_eq_self h.isRequired]

end Property

/-! ## Records -/

structure RecordBody.IsComplete (r : RecordBody) : Prop where
  properties : ∀ p ∈ r.properties, p.IsComplete
  required : r.required.isSome = true
  variants : r.variants.isSome = true
  invalidCases : r.invalidCases.isSome = true

/-- Whether a record is the same but for defaults: its properties are as many and in the same order,
and each is kept. The fields of a variant have no defaults. -/
structure RecordBody.IsKeptIn (before after : RecordBody) : Prop where
  properties : List.Forall₂ Property.IsKeptIn before.properties after.properties
  required : TypeCatalog.IsKeptIn before.required after.required
  variants : TypeCatalog.IsKeptIn before.variants after.variants
  validCases : after.validCases = before.validCases
  invalidCases : TypeCatalog.IsKeptIn before.invalidCases after.invalidCases

namespace RecordBody

/-- `RecordBody.withDefaults` keeps the declared lists, and the order and number of the properties.
-/
theorem isKeptIn_withDefaults (r : RecordBody) : r.IsKeptIn r.withDefaults where
  properties := List.forall₂_map_right_iff.2
    (List.forall₂_same.2 fun p _ => p.isKeptIn_withDefaults)
  required := isKeptIn_orDefault _ _
  variants := isKeptIn_orDefault _ _
  validCases := rfl
  invalidCases := isKeptIn_orDefault _ _

/-- All optional lists of a record are declared afterwards, and so are the marks of its properties.
-/
theorem isComplete_withDefaults (r : RecordBody) : r.withDefaults.IsComplete where
  properties := List.forall_mem_map.2 fun p _ => p.isComplete_withDefaults
  required := rfl
  variants := rfl
  invalidCases := rfl

/-- A record that declares all of them stays as it is. -/
theorem withDefaults_eq_self {r : RecordBody} (h : r.IsComplete) : r.withDefaults = r := by
  have hproperties : r.properties.map Property.withDefaults = r.properties :=
    (List.map_congr_left fun p hp => Property.withDefaults_eq_self (h.properties p hp)).trans
      (List.map_id _)
  unfold withDefaults
  rw [hproperties, orDefault_eq_self h.required, orDefault_eq_self h.variants,
    orDefault_eq_self h.invalidCases]

end RecordBody

/-! ## Bodies -/

namespace Body

/-- Whether the fields of a body that have a default are declared. An enum has none. -/
def IsComplete : Body → Prop
  | bool c => c.IsComplete
  | enum _ => True
  | int b => b.cases.IsComplete
  | float b =>
    b.isMinimumExclusive.isSome = true ∧ b.isMaximumExclusive.isSome = true ∧ b.cases.IsComplete
  | string b => b.minimumLength.isSome = true ∧ b.cases.IsComplete
  | object b => b.cases.IsComplete
  | record r => r.IsComplete

/-- Whether a body is of the same kind and the same but for defaults. The items of an enum, its data
type and the pattern of a text have none. -/
inductive IsKeptIn : Body → Body → Prop where
  | bool {c c' : TestCases} (cases : c.IsKeptIn c') : IsKeptIn (bool c) (bool c')
  | enum (b : EnumBody) : IsKeptIn (enum b) (enum b)
  | int {b b' : IntBody} (minimum : b'.minimum = b.minimum) (maximum : b'.maximum = b.maximum)
      (cases : b.cases.IsKeptIn b'.cases) : IsKeptIn (int b) (int b')
  | float {b b' : FloatBody} (minimum : b'.minimum = b.minimum) (maximum : b'.maximum = b.maximum)
      (isMinimumExclusive : TypeCatalog.IsKeptIn b.isMinimumExclusive b'.isMinimumExclusive)
      (isMaximumExclusive : TypeCatalog.IsKeptIn b.isMaximumExclusive b'.isMaximumExclusive)
      (cases : b.cases.IsKeptIn b'.cases) : IsKeptIn (float b) (float b')
  | string {b b' : StringBody} (regex : b'.regex = b.regex)
      (minimumLength : TypeCatalog.IsKeptIn b.minimumLength b'.minimumLength)
      (maximumLength : b'.maximumLength = b.maximumLength)
      (cases : b.cases.IsKeptIn b'.cases) : IsKeptIn (string b) (string b')
  | object {b b' : ObjectBody} (schema : b'.schema = b.schema)
      (cases : b.cases.IsKeptIn b'.cases) : IsKeptIn (object b) (object b')
  | record {r r' : RecordBody} (fields : r.IsKeptIn r') : IsKeptIn (record r) (record r')

/-- What is filled in depends on the kind, and is kept for each of them. -/
theorem isKeptIn_withDefaults (body : Body) : body.IsKeptIn body.withDefaults := by
  cases body with
  | bool c => exact .bool c.isKeptIn_withDefaults
  | enum b => exact .enum b
  | int b => exact .int rfl rfl b.cases.isKeptIn_withDefaults
  | float b =>
      exact .float rfl rfl (isKeptIn_orDefault _ _) (isKeptIn_orDefault _ _)
        b.cases.isKeptIn_withDefaults
  | string b => exact .string rfl (isKeptIn_orDefault _ _) rfl b.cases.isKeptIn_withDefaults
  | object b => exact .object rfl b.cases.isKeptIn_withDefaults
  | record r => exact .record r.isKeptIn_withDefaults

/-- After it the body of any kind is complete. -/
theorem isComplete_withDefaults (body : Body) : body.withDefaults.IsComplete := by
  cases body with
  | bool c => exact c.isComplete_withDefaults
  | enum b => exact trivial
  | int b => exact b.cases.isComplete_withDefaults
  | float b => exact ⟨rfl, rfl, b.cases.isComplete_withDefaults⟩
  | string b => exact ⟨rfl, b.cases.isComplete_withDefaults⟩
  | object b => exact b.cases.isComplete_withDefaults
  | record r => exact r.isComplete_withDefaults

/-- A complete body of any kind stays as it is. -/
theorem withDefaults_eq_self {body : Body} (h : body.IsComplete) : body.withDefaults = body := by
  cases body with
  | bool c => rw [withDefaults, TestCases.withDefaults_eq_self h]
  | enum b => rfl
  | int b => rw [withDefaults, TestCases.withDefaults_eq_self h]
  | float b =>
      obtain ⟨hminimum, hmaximum, hcases⟩ := h
      rw [withDefaults, orDefault_eq_self hminimum, orDefault_eq_self hmaximum,
        TestCases.withDefaults_eq_self hcases]
  | string b =>
      obtain ⟨hminimum, hcases⟩ := h
      rw [withDefaults, orDefault_eq_self hminimum, TestCases.withDefaults_eq_self hcases]
  | object b => rw [withDefaults, TestCases.withDefaults_eq_self h]
  | record r => rw [withDefaults_record, RecordBody.withDefaults_eq_self h]

end Body

/-! ## Definitions -/

/-- Whether the fields of a definition that have a default are declared. -/
structure Definition.IsComplete (d : Definition) : Prop where
  header : d.header.IsComplete
  body : d.body.IsComplete

/-- Whether a definition is the same but for defaults. -/
structure Definition.IsKeptIn (before after : Definition) : Prop where
  header : before.header.IsKeptIn after.header
  body : before.body.IsKeptIn after.body

namespace Definition

variable (d : Definition)

/-- A definition with its defaults is complete, header and body. -/
theorem isComplete_withDefaults : d.withDefaults.IsComplete :=
  ⟨d.header.isComplete_withDefaults, d.body.isComplete_withDefaults⟩

/-- A definition keeps all that it declares when its defaults are filled in. -/
theorem isKeptIn_withDefaults : d.IsKeptIn d.withDefaults :=
  ⟨d.header.isKeptIn_withDefaults, d.body.isKeptIn_withDefaults⟩

/-- There is nothing to fill in exactly where all is declared. -/
theorem withDefaults_eq_self_iff : d.withDefaults = d ↔ d.IsComplete := by
  constructor
  · intro heq
    rw [← heq]
    exact d.isComplete_withDefaults
  · intro h
    rw [withDefaults, Header.withDefaults_eq_self h.header, Body.withDefaults_eq_self h.body]

/-- Where the defaults are filled in, there is nothing left to fill. -/
theorem withDefaults_withDefaults : d.withDefaults.withDefaults = d.withDefaults :=
  d.withDefaults.withDefaults_eq_self_iff.2 d.isComplete_withDefaults

/-- To fill in the defaults of a definition of any kind twice is the same as once. What was declared
keeps its value, what has no default stays as it is, the lists are as long as before and in the same
order, and every field that has a default is declared. Only a definition in which such a field was
missing is changed. -/
theorem withDefaults_fills_gaps :
    d.withDefaults.withDefaults = d.withDefaults
    ∧ d.IsKeptIn d.withDefaults
    ∧ d.withDefaults.IsComplete
    ∧ (d.withDefaults = d ↔ d.IsComplete) :=
  ⟨d.withDefaults_withDefaults, d.isKeptIn_withDefaults, d.isComplete_withDefaults,
    d.withDefaults_eq_self_iff⟩

end Definition

end TypeCatalog
