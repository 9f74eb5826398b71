import TypeCatalog.Definition.Defaults
import TypeCatalog.Schema.Emit

/-!
# Defaults and the documents of a definition

A field that has a default means the same whether it is declared or filled in. That takes two places
that agree: `Definition.withDefaults` writes the value down, and whoever reads the definition takes
the same value where there is none. The two are far apart in the case of a title, which is made of
the name in both places, and of a summary, which is written down as an empty text and read as none.

`emit_withDefaults` says that the documents of a definition are the same with its defaults as
without, and so are the references that are reported when it has none.
-/

set_option autoImplicit false

namespace TypeCatalog

/-! ## Definitions -/

namespace Definition

variable (d : Definition)

/-- Filling in a definition fills in its header by itself. -/
@[simp]
theorem withDefaults_header : d.withDefaults.header = d.header.withDefaults := rfl

/-- Filling in a definition fills in its body by itself. -/
@[simp]
theorem withDefaults_body : d.withDefaults.body = d.body.withDefaults := rfl

/-- A body that is filled in is of the same kind. -/
@[simp]
theorem withDefaults_kind : d.withDefaults.kind = d.kind := by
  obtain ⟨header, body⟩ := d
  cases body <;> rfl

/-- The examples of a header are none of the fields with a default. -/
@[simp]
theorem withDefaults_examples : d.withDefaults.examples = d.examples := rfl

/-- The list `validTestCases` of a kind is read as empty where it is missing, so an empty one
changes nothing. -/
@[simp]
theorem withDefaults_validCases : d.withDefaults.validCases = d.validCases := by
  obtain ⟨header, body⟩ := d
  cases body <;> rfl

/-- So is `invalidTestCases`. -/
@[simp]
theorem withDefaults_invalidCases : d.withDefaults.invalidCases = d.invalidCases := by
  obtain ⟨header, body⟩ := d
  cases body <;> rfl

end Definition

/-! ## Records -/

namespace RecordBody

/-- A record with its defaults. -/
def withDefaults (r : RecordBody) : RecordBody :=
  { r with
    properties := r.properties.map Property.withDefaults
    required := orDefault [] r.required
    variants := orDefault [] r.variants
    invalidCases := orDefault [] r.invalidCases }

variable (r : RecordBody)

/-- Missing `required` asks for what the properties mark with `isRequired`, and marks that are
filled in are false. -/
@[simp]
theorem withDefaults_requiredNames : r.withDefaults.requiredNames = r.requiredNames := by
  show ((r.properties.map Property.withDefaults).filter r.withDefaults.requires).map (·.name) = _
  rw [List.filter_map, List.map_map]
  rfl

/-- A variant selects the same properties, each with its defaults. -/
theorem withDefaults_selected (v : Variant) :
    r.withDefaults.selected v = (r.selected v).map Property.withDefaults := by
  show (r.properties.map Property.withDefaults).filter _ = _
  rw [List.filter_map]
  rfl

/-- A variant asks for the same names, whether the record around it has its defaults or not. -/
@[simp]
theorem withDefaults_requiredBy (v : Variant) :
    r.withDefaults.requiredBy v = r.requiredBy v := by
  unfold requiredBy
  dsimp only
  rw [withDefaults_requiredNames, withDefaults_selected, List.filter_map, List.map_map]
  rfl

end RecordBody

/-- The body of a record is filled in as a record. -/
@[simp]
theorem Body.withDefaults_record (r : RecordBody) :
    (Body.record r).withDefaults = .record r.withDefaults := rfl

/-- What a property says of the values that it stands for. -/
def Property.meaning (p : Property) : String × Option String × String × Bool × Bool :=
  (p.name, p.summary, p.propertyType, p.array, p.flagged)

/-- What a property means does not change: `isArray` and `isRequired` are taken as false where they
are missing. -/
@[simp]
theorem Property.withDefaults_meaning (p : Property) : p.withDefaults.meaning = p.meaning := rfl

/-! ## Documents -/

namespace Emitter

variable (e : Emitter)

/-- An empty text in place of a summary counts as none. -/
theorem nonEmpty_orDefault (s : Option String) : nonEmpty (orDefault "" s) = nonEmpty s := by
  cases s <;> rfl

/-- The members that a document begins with are made of no more of a header than this. -/
theorem headerMembers_congr {typeName : String} {h h' : Header} (htitle : titleOf h = titleOf h')
    (hsummary : nonEmpty h.summary = nonEmpty h'.summary)
    (hdeprecated : h.deprecated = h'.deprecated)
    (hexamples : h.examples.getD [] = h'.examples.getD []) :
    e.headerMembers typeName h = e.headerMembers typeName h' := by
  unfold headerMembers
  rw [htitle, hsummary, hdeprecated, hexamples]

/-- The members of a document that come from the header are made of the same title and summary. -/
theorem headerMembers_withDefaults (typeName : String) (h : Header) :
    e.headerMembers typeName h.withDefaults = e.headerMembers typeName h :=
  e.headerMembers_congr rfl (nonEmpty_orDefault h.summary) rfl rfl

/-- And so are those of the document of a variant, whose header is made of the one of the record. -/
theorem headerMembers_variantHeader_withDefaults (typeName : String) (h : Header) (v : Variant) :
    e.headerMembers typeName (variantHeader h.withDefaults v)
      = e.headerMembers typeName (variantHeader h v) :=
  e.headerMembers_congr rfl rfl rfl rfl

/-- The members of the schema of a record are made of the meanings of its properties. -/
theorem recordMembers_withDefaults (system : String) (ps : List Property) (required : List String) :
    e.recordMembers system (ps.map Property.withDefaults) required
      = e.recordMembers system ps required := by
  unfold recordMembers
  rw [List.foldl_map]
  rfl

/-- The members that describe the values are the same for each kind. -/
theorem bodyMembers_withDefaults (system : String) (header : List (String × Json)) (body : Body) :
    e.bodyMembers system header body.withDefaults = e.bodyMembers system header body := by
  cases body with
  | record r =>
      show header ++ e.recordMembers system r.withDefaults.properties r.withDefaults.requiredNames
        = header ++ e.recordMembers system r.properties r.requiredNames
      rw [r.withDefaults_requiredNames]
      exact congrArg (header ++ ·) (e.recordMembers_withDefaults system r.properties _)
  | _ => rfl

/-- The document of a type is the same with the defaults as without. -/
theorem typeDocument_withDefaults (d : Definition) :
    e.typeDocument d.withDefaults = e.typeDocument d := by
  unfold typeDocument
  dsimp only
  rw [d.withDefaults_header, d.withDefaults_body, headerMembers_withDefaults,
    bodyMembers_withDefaults]
  rfl

/-- The document of a variant is the same with the defaults as without. -/
theorem variantDocument_withDefaults (d : Definition) (r : RecordBody) (v : Variant) :
    e.variantDocument d.withDefaults r.withDefaults v = e.variantDocument d r v := by
  unfold variantDocument
  dsimp only
  rw [d.withDefaults_header, headerMembers_variantHeader_withDefaults, r.withDefaults_selected,
    recordMembers_withDefaults, r.withDefaults_requiredBy]
  rfl

/-- The variants have the same documents in the same order. -/
theorem variantDocuments_withDefaults (d : Definition) :
    e.variantDocuments d.withDefaults = e.variantDocuments d := by
  obtain ⟨header, body⟩ := d
  cases body with
  | record r =>
      exact List.map_congr_left fun v _ => e.variantDocument_withDefaults ⟨header, .record r⟩ r v
  | _ => rfl

/-- The references of a definition are looked up the same. -/
theorem unresolvedReferences_withDefaults (known : KnownTypes) (d : Definition) :
    e.unresolvedReferences known d.withDefaults = e.unresolvedReferences known d := by
  obtain ⟨header, body⟩ := d
  cases body with
  | record r =>
      unfold unresolvedReferences
      show (r.properties.map Property.withDefaults).zipIdx.filterMap _ = _
      rw [List.zipIdx_map, List.filterMap_map]
      rfl
  | _ => rfl

/-- Defaults do not change what is written for a definition, under any domain and whatever types are
known: the documents of the type and of its variants, or the references that are not known. Nor do
they change what a definition declares: its name, its kind, its examples and test cases and, for a
record, what is required, the variants, the properties that each of them selects and those that it
requires. -/
theorem emit_withDefaults (known : KnownTypes) (d : Definition) :
    e.emit known d.withDefaults = e.emit known d
    ∧ d.withDefaults.typeName = d.typeName ∧ d.withDefaults.kind = d.kind
    ∧ d.withDefaults.examples = d.examples ∧ d.withDefaults.validCases = d.validCases
    ∧ d.withDefaults.invalidCases = d.invalidCases
    ∧ ∀ r, d.body = .record r → ∃ r', d.withDefaults.body = .record r'
      ∧ r'.requiredNames = r.requiredNames ∧ r'.variantList = r.variantList
      ∧ ∀ v ∈ r.variantList, d.withDefaults.variantTypeName v = d.variantTypeName v
        ∧ (r'.selected v).map Property.meaning = (r.selected v).map Property.meaning
        ∧ r'.requiredBy v = r.requiredBy v := by
  refine ⟨?_, rfl, d.withDefaults_kind, rfl, d.withDefaults_validCases, d.withDefaults_invalidCases,
    fun r hr => ⟨r.withDefaults, ?_, r.withDefaults_requiredNames, rfl, fun v _ => ⟨rfl, ?_,
      r.withDefaults_requiredBy v⟩⟩⟩
  · unfold emit
    rw [unresolvedReferences_withDefaults, typeDocument_withDefaults, variantDocuments_withDefaults]
  · rw [d.withDefaults_body, hr, Body.withDefaults_record]
  · rw [r.withDefaults_selected, List.map_map]
    exact List.map_congr_left fun p _ => p.withDefaults_meaning

end Emitter

end TypeCatalog
