/-!
# Rules and kinds of problems

Every check of a definition has a `Rule` with a fixed code. A rule belongs to a `Kind` of problem,
and the kind decides whether the problem is an error or a warning. Some kinds have no rule, because
they are found after the definitions have been checked.

`Rule.code` is the number by which a rule is shown and `Rule.kind` the kind that it belongs to;
`Kind.severity` decides between errors and warnings, and `Rule.isDocumentation` singles the rules
out that ask for summaries.
-/

set_option autoImplicit false

namespace TypeCatalog

inductive Severity where
  | warning
  | error
deriving DecidableEq, Inhabited

namespace Severity

def text : Severity → String
  | warning => "warning"
  | error => "error"

def name : Severity → String
  | warning => "Warning"
  | error => "Error"

end Severity

/-- What went wrong, whichever check found it. -/
inductive Kind where
  /-- A definition has not the shape of its kind. -/
  | structuralDefinition
  /-- A value, a property, a variant or a type is declared twice. -/
  | uniqueness
  /-- A property, a type or a data type that is referred to does not exist. -/
  | unresolvedReference
  /-- No validator can be built for an emitted document. -/
  | schemaCompilation
  /-- A declared example is not valid. -/
  | exampleValidation
  /-- A valid test case is not valid. -/
  | testCaseValidation
  /-- An invalid test case is valid. -/
  | testCaseInvalidation
  /-- The data of an enum item does not fit the data type of the enum. -/
  | enumItemDataValidation
  /-- References lead back to themselves. -/
  | cyclicReference
  /-- Documentation is missing. -/
  | documentation
deriving DecidableEq, Inhabited

namespace Kind

/-- The word for a kind inside a message. -/
def text : Kind → String
  | structuralDefinition => "StructuralDefinitionError"
  | uniqueness => "UniquenessError"
  | unresolvedReference => "UnresolvedReferenceError"
  | schemaCompilation => "SchemaCompilationError"
  | exampleValidation => "ExampleValidationError"
  | testCaseValidation => "TestCaseValidationError"
  | testCaseInvalidation => "TestCaseInvalidationError"
  | enumItemDataValidation => "EnumItemDataValidationError"
  | cyclicReference => "CyclicReferenceError"
  | documentation => "DocumentationWarning"

/-- The word for a kind inside a report. -/
def name : Kind → String
  | structuralDefinition => "StructuralDefinition"
  | uniqueness => "Uniqueness"
  | unresolvedReference => "UnresolvedReference"
  | schemaCompilation => "SchemaCompilation"
  | exampleValidation => "ExampleValidation"
  | testCaseValidation => "TestCaseValidation"
  | testCaseInvalidation => "TestCaseInvalidation"
  | enumItemDataValidation => "EnumItemDataValidation"
  | cyclicReference => "CyclicReference"
  | documentation => "Documentation"

def all : List Kind :=
  [structuralDefinition, uniqueness, unresolvedReference, schemaCompilation, exampleValidation,
   testCaseValidation, testCaseInvalidation, enumItemDataValidation, cyclicReference, documentation]

/-- The kind of a name. -/
def ofName? (s : String) : Option Kind := all.find? (·.name = s)

/-- Missing documentation is a warning, and all else an error. -/
def severity : Kind → Severity
  | documentation => .warning
  | _ => .error

end Kind

/-- A single check of a definition. -/
inductive Rule where
  | notAnObject
  | unknownKind
  | invalidSystem
  | invalidName
  | invalidSummary
  | invalidDeprecated
  | invalidStringList
  | unknownField
  | invalidExample
  | missingField
  | invalidBounds
  | invalidRegex
  | emptyItems
  | invalidEnumItem
  | invalidProperty
  | invalidVariant
  | invalidReference
  | shape
  | duplicateEnumValue
  | duplicatePropertyName
  | duplicateVariantName
  | duplicateTypeName
  | unknownRequiredProperty
  | unknownVariantProperty
  | unknownPropertyType
  | unknownDataType
  | missingTypeSummary
  | missingPropertySummary
  | missingItemSummary
  | missingVariantSummary
  | missingExampleSummary
deriving DecidableEq, Inhabited

namespace Rule

def all : List Rule :=
  [notAnObject, unknownKind, invalidSystem, invalidName, invalidSummary, invalidDeprecated,
   invalidStringList, unknownField, invalidExample, missingField, invalidBounds, invalidRegex,
   emptyItems, invalidEnumItem, invalidProperty, invalidVariant, invalidReference, shape,
   duplicateEnumValue, duplicatePropertyName, duplicateVariantName, duplicateTypeName,
   unknownRequiredProperty, unknownVariantProperty, unknownPropertyType, unknownDataType,
   missingTypeSummary, missingPropertySummary, missingItemSummary, missingVariantSummary,
   missingExampleSummary]

/-- The code of a rule: `S` for structure, `U` for uniqueness, `R` for references and `D` for
documentation. -/
def code : Rule → String
  | notAnObject => "S001"
  | unknownKind => "S002"
  | invalidSystem => "S003"
  | invalidName => "S004"
  | invalidSummary => "S005"
  | invalidDeprecated => "S006"
  | invalidStringList => "S007"
  | unknownField => "S008"
  | invalidExample => "S009"
  | missingField => "S010"
  | invalidBounds => "S011"
  | invalidRegex => "S012"
  | emptyItems => "S013"
  | invalidEnumItem => "S014"
  | invalidProperty => "S015"
  | invalidVariant => "S016"
  | invalidReference => "S017"
  | shape => "S099"
  | duplicateEnumValue => "U001"
  | duplicatePropertyName => "U002"
  | duplicateVariantName => "U003"
  | duplicateTypeName => "U004"
  | unknownRequiredProperty => "R001"
  | unknownVariantProperty => "R002"
  | unknownPropertyType => "R003"
  | unknownDataType => "R004"
  | missingTypeSummary => "D001"
  | missingPropertySummary => "D002"
  | missingItemSummary => "D003"
  | missingVariantSummary => "D004"
  | missingExampleSummary => "D005"

/-- The word for a rule inside a report. -/
def name : Rule → String
  | notAnObject => "NotAnObject"
  | unknownKind => "UnknownKind"
  | invalidSystem => "InvalidSystem"
  | invalidName => "InvalidName"
  | invalidSummary => "InvalidSummary"
  | invalidDeprecated => "InvalidDeprecated"
  | invalidStringList => "InvalidStringList"
  | unknownField => "UnknownField"
  | invalidExample => "InvalidExample"
  | missingField => "MissingField"
  | invalidBounds => "InvalidBounds"
  | invalidRegex => "InvalidRegex"
  | emptyItems => "EmptyItems"
  | invalidEnumItem => "InvalidEnumItem"
  | invalidProperty => "InvalidProperty"
  | invalidVariant => "InvalidVariant"
  | invalidReference => "InvalidReference"
  | shape => "Shape"
  | duplicateEnumValue => "DuplicateEnumValue"
  | duplicatePropertyName => "DuplicatePropertyName"
  | duplicateVariantName => "DuplicateVariantName"
  | duplicateTypeName => "DuplicateTypeName"
  | unknownRequiredProperty => "UnknownRequiredProperty"
  | unknownVariantProperty => "UnknownVariantProperty"
  | unknownPropertyType => "UnknownPropertyType"
  | unknownDataType => "UnknownDataType"
  | missingTypeSummary => "MissingTypeSummary"
  | missingPropertySummary => "MissingPropertySummary"
  | missingItemSummary => "MissingItemSummary"
  | missingVariantSummary => "MissingVariantSummary"
  | missingExampleSummary => "MissingExampleSummary"

/-- The rule of a name. -/
def ofName? (s : String) : Option Rule := all.find? (·.name = s)

/-- The kind of problem that a rule finds. -/
def kind : Rule → Kind
  | duplicateEnumValue | duplicatePropertyName | duplicateVariantName | duplicateTypeName =>
    .uniqueness
  | unknownRequiredProperty | unknownVariantProperty | unknownPropertyType | unknownDataType =>
    .unresolvedReference
  | missingTypeSummary | missingPropertySummary | missingItemSummary | missingVariantSummary
  | missingExampleSummary => .documentation
  | _ => .structuralDefinition

/-- Whether a rule asks for documentation. -/
def isDocumentation (r : Rule) : Bool := r.kind = .documentation

end Rule

end TypeCatalog
