import TypeCatalog.Definition.Violation
import TypeCatalog.Definition.Basic
import TypeCatalog.Json.Decimal
import TypeCatalog.Pattern.Strict
import TypeCatalog.Text.Blank

/-!
# Checking the shape of a definition

`Shape.check` lists the rules that a raw definition breaks, in a fixed order: the kind, the header,
unknown fields, and then what the kind asks for. Documentation is checked on demand only. The
functional pass, `Shape.violations`, leaves it out; the documented pass, `Shape.documented`, takes
it in. `Shape.warnings` keeps what the documented pass adds to the functional one.

There is one function for each part, in the order in which its rules are looked at: `checkHeader`,
`checkExamples`, `checkInt`, `checkFloat`, `checkString`, `checkEnum` with `checkItems`, and
`checkRecord` with `checkProperties`, `checkRequiredList` and `checkVariants`. They are made of
`when`, a violation under a condition, of `misused`, a field with a value that is not accepted, and
of `summaryNote`, a missing summary. Places are written as in `variants[0].required[1]`.
-/

set_option autoImplicit false

namespace TypeCatalog.Shape

abbrev Members := List (String × Json)

def headerFields : List String :=
  ["kind", "system", "name", "title", "summary", "deprecated", "tags", "labels", "examples"]

def testCaseFields : List String := ["validTestCases", "invalidTestCases"]

def enumItemFields : List String := ["value", "text", "symbol", "deprecated", "summary", "data"]

def propertyFields : List String := ["name", "summary", "propertyType", "isArray", "isRequired"]

def variantFields : List String :=
  ["name", "summary", "required", "includeProperties", "excludeProperties"]

def exampleFields : List String := ["value", "summary"]

/-- The fields that a kind has besides the header. -/
def kindFields : TypeKind → List String
  | .bool => testCaseFields
  | .enum => ["items", "dataType"]
  | .int => ["minimum", "maximum"] ++ testCaseFields
  | .float => ["minimum", "maximum", "isMinimumExclusive", "isMaximumExclusive"] ++ testCaseFields
  | .string => ["regex", "minimumLength", "maximumLength"] ++ testCaseFields
  | .object => "jsonSchema" :: testCaseFields
  | .record => ["properties", "required", "variants"] ++ testCaseFields

/-! ## Building blocks -/

/-- A violation when a condition holds. -/
def when (condition : Bool) (rule : Rule) (path message : String) : List Violation :=
  if condition then [.plain rule path message] else []

/-- Whether a field is there with a value that is not accepted. -/
def misused (accepts : Json → Bool) (field : Option Json) : Bool := field.any (!accepts ·)

/-- Whether a summary is missing. A summary that is no text is another violation. -/
def lacksSummary : Option Json → Bool
  | none => true
  | some (.string s) => Text.isBlank s
  | some _ => false

/-- A missing summary, when documentation is checked. -/
def summaryNote (notes : Bool) (rule : Rule) (path message : String) (summary : Option Json) :
    List Violation :=
  when (notes && lacksSummary summary) rule path message

/-- The members with names that are not among the fields. -/
def unknownFields (rule : Rule) (pathTo : String → String) (fields : List String) (suffix : String)
    (ms : Members) : List Violation :=
  (ms.filter fun m => !fields.contains m.1).map fun m =>
    .plain rule (pathTo m.1) ("Field '" ++ m.1 ++ "' is not allowed on " ++ suffix)

/-- The texts of a list of texts. -/
def strings? : Json → Option (List String)
  | .array xs => xs.mapM Json.string?
  | _ => none

/-- The place of an item. -/
def itemPath (field : String) (i : Nat) : String := field ++ "[" ++ toString i ++ "]"

/-- Checks every item of a list at its place. -/
def eachItem (check : Nat → Json → List Violation) (items : List Json) : List Violation :=
  items.zipIdx.flatMap fun (item, i) => check i item

/-! ## Examples and test cases -/

/-- One example or test case. -/
def checkExample (notes : Bool) (path : String) : Json → List Violation
  | .object ms =>
    when (ms.lookup "value").isNone .invalidExample (path ++ ".value")
      "Entry must declare a 'value'"
    ++ when (misused Json.isString (ms.lookup "summary")) .invalidExample (path ++ ".summary")
      "'summary' must be a string"
    ++ unknownFields .invalidExample (fun k => path ++ "." ++ k) exampleFields
      "an example or test case" ms
    ++ summaryNote notes .missingExampleSummary (path ++ ".summary") "Example should have a summary"
      (ms.lookup "summary")
  | _ => [.plain .invalidExample path "Entry must be an object with a 'value'"]

/-- A list of examples or test cases. -/
def checkExamples (notes isRequired : Bool) (field : String) (ms : Members) : List Violation :=
  match ms.lookup field with
  | none => when isRequired .missingField field ("'" ++ field ++ "' must be declared")
  | some (.array xs) => eachItem (fun i => checkExample notes (itemPath field i)) xs
  | some _ => [.plain .invalidExample field ("'" ++ field ++ "' must be an array")]

/-- The test cases, which need no summaries. -/
def checkTestCases (validRequired : Bool) (ms : Members) : List Violation :=
  checkExamples false validRequired "validTestCases" ms
  ++ checkExamples false false "invalidTestCases" ms

/-! ## The header -/

/-- A name that has to be an identifier. -/
def checkIdentifier (rule : Rule) (field title : String) (ms : Members) : List Violation :=
  match (ms.lookup field).bind Json.string? with
  | some s =>
    when (!Name.isIdentifier s) rule field
      (title ++ " '" ++ s ++ "' must match ^[a-z][a-zA-Z0-9]*$")
  | none => [.plain rule field ("Type definition must declare a string '" ++ field ++ "'")]

def checkHeader (notes : Bool) (ms : Members) : List Violation :=
  checkIdentifier .invalidSystem "system" "System" ms
  ++ checkIdentifier .invalidName "name" "Name" ms
  ++ (["title", "summary"].flatMap fun k =>
      when (misused Json.isString (ms.lookup k)) .invalidSummary k
        ("'" ++ k ++ "' must be a string"))
  ++ summaryNote notes .missingTypeSummary "summary" "Type should have a summary"
      (ms.lookup "summary")
  ++ when (misused Json.isString (ms.lookup "deprecated")) .invalidDeprecated "deprecated"
      "'deprecated' must be a string explaining the deprecation"
  ++ (["tags", "labels"].flatMap fun k =>
      when (misused (fun v => (strings? v).isSome) (ms.lookup k)) .invalidStringList k
        ("'" ++ k ++ "' must be an array of strings"))
  ++ checkExamples notes false "examples" ms

/-! ## Numbers and texts -/

/-- A field's value when it is of a type. -/
def read {α : Type} (as : Json → Option α) (field : String) (ms : Members) : Option α :=
  (ms.lookup field).bind as

/-- A field that has to be there and of a type. -/
def checkTyped {α : Type} (as : Json → Option α) (field expected : String) (ms : Members) :
    List Violation :=
  when (read as field ms).isNone .missingField field ("'" ++ field ++ "' must be " ++ expected)

def checkInt (ms : Members) : List Violation :=
  checkTyped Json.int64? "minimum" "an integer" ms
  ++ checkTyped Json.int64? "maximum" "an integer" ms
  ++ match read Json.int64? "minimum" ms, read Json.int64? "maximum" ms with
    | some low, some high =>
      if high < low then
        [⟨.invalidBounds, "minimum",
          "Minimum " ++ toString low ++ " is greater than maximum " ++ toString high,
          .object [("minimum", .number (.integer low)), ("maximum", .number (.integer high))]⟩]
      else []
    | _, _ => []

/-- Whether no number lies in a range. -/
def isEmptyRange (low high : Binary64) (exclusive : Bool) : Bool :=
  decide (high.value < low.value) || (decide (low.value = high.value) && exclusive)

def checkFloat (ms : Members) : List Violation :=
  let flags := ["isMinimumExclusive", "isMaximumExclusive"]
  checkTyped Json.binary64? "minimum" "a number" ms
  ++ checkTyped Json.binary64? "maximum" "a number" ms
  ++ (flags.flatMap fun k =>
      when (misused Json.isBool (ms.lookup k)) .missingField k ("'" ++ k ++ "' must be a boolean"))
  ++ match read Json.binary64? "minimum" ms, read Json.binary64? "maximum" ms with
    | some low, some high =>
      if isEmptyRange low high (flags.any fun k => (read Json.bool? k ms).getD false) then
        [⟨.invalidBounds, "minimum",
          "Range " ++ low.plainText ++ ".." ++ high.plainText ++ " admits no values",
          .object [("minimum", .ofBinary64 low), ("maximum", .ofBinary64 high)]⟩]
      else []
    | _, _ => []

/-- A pattern has to be one of the strict dialect. -/
def checkRegex (ms : Members) : List Violation :=
  match ms.lookup "regex" with
  | none => []
  | some (.string pattern) =>
    match Pattern.Strict.check pattern with
    | .ok _ => []
    | .error e =>
      [⟨.invalidRegex, "regex", "Regex '" ++ pattern ++ "' does not compile",
        .object [("reason", .string e)]⟩]
  | some _ => [.plain .invalidRegex "regex" "'regex' must be a string"]

def checkString (ms : Members) : List Violation :=
  checkTyped Json.nat64? "maximumLength" "a non-negative integer" ms
  ++ when (misused (fun v => v.nat64?.isSome) (ms.lookup "minimumLength")) .missingField
      "minimumLength" "'minimumLength' must be a non-negative integer"
  ++ (match read Json.nat64? "minimumLength" ms, read Json.nat64? "maximumLength" ms with
    | some low, some high =>
      when (high < low) .invalidBounds "minimumLength"
        ("Minimum length " ++ toString low ++ " is greater than maximum length " ++ toString high)
    | _, _ => [])
  ++ checkRegex ms

/-! ## Enums -/

/-- The value of an item, when it is a text that is not empty. -/
def itemValue? (item : Json) : Option String :=
  match (item.member? "value").bind Json.string? with
  | some s => if s.isEmpty then none else some s
  | none => none

/-- The value of an item: it has to be there, and not to be the value of an item seen before. -/
def checkItemValue (i : Nat) (seen : List (String × Nat)) (item : Json) : List Violation :=
  let path := itemPath "items" i ++ ".value"
  match itemValue? item with
  | none => [.plain .invalidEnumItem path "Enum item must declare a non-empty string 'value'"]
  | some s =>
    match seen.lookup s with
    | none => []
    | some j =>
      [⟨.duplicateEnumValue, path,
        "Enum item value '" ++ s ++ "' at index " ++ toString i ++ " duplicates index "
          ++ toString j,
        .object [("index", .ofNat i), ("value", .string s), ("firstIndex", .ofNat j)]⟩]

/-- What an item holds besides its value. -/
def checkItemFields (notes : Bool) (i : Nat) (ms : Members) : List Violation :=
  let path := itemPath "items" i
  when (!(ms.lookup "text").any Json.isString) .invalidEnumItem (path ++ ".text")
    "Enum item must declare a string 'text'"
  ++ (["symbol", "deprecated", "summary"].flatMap fun k =>
      when (misused Json.isString (ms.lookup k)) .invalidEnumItem (path ++ "." ++ k)
        ("'" ++ k ++ "' must be a string"))
  ++ unknownFields .invalidEnumItem (fun k => path ++ "." ++ k) enumItemFields "an enum item" ms
  ++ summaryNote notes .missingItemSummary (path ++ ".summary") "Enum item should have a summary"
      (ms.lookup "summary")

/-- Items from an index on. `seen` holds the values of the items before them, each with the index
where it was seen last. -/
def checkItems (notes : Bool) (i : Nat) (seen : List (String × Nat)) : List Json → List Violation
  | [] => []
  | .object ms :: items =>
    checkItemValue i seen (.object ms) ++ checkItemFields notes i ms
    ++ checkItems notes (i + 1)
        (match itemValue? (.object ms) with
          | some s => (s, i) :: seen
          | none => seen)
        items
  | _ :: items =>
    .plain .invalidEnumItem (itemPath "items" i) "Enum item must be an object"
      :: checkItems notes (i + 1) seen items

def checkEnum (notes : Bool) (ms : Members) : List Violation :=
  when (misused (fun v => v.string?.any Name.isReference) (ms.lookup "dataType")) .invalidReference
    "dataType" "'dataType' must be a type reference"
  ++ match (ms.lookup "items").bind Json.items? with
    | none => [.plain .missingField "items" "Enum type must declare an 'items' array"]
    | some items =>
      when items.isEmpty .emptyItems "items" "Enum type must declare at least one item"
      ++ checkItems notes 0 [] items

/-! ## Records -/

/-- The name of a property, when it is an identifier. -/
def declaredName? (property : Json) : Option String :=
  match (property.member? "name").bind Json.string? with
  | some s => if Name.isIdentifier s then some s else none
  | none => none

/-- The names that properties declare. -/
def declaredNames (ms : Members) : List String :=
  (((ms.lookup "properties").bind Json.items?).getD []).filterMap declaredName?

/-- The name of a property: an identifier that is not declared before. -/
def checkPropertyName (i : Nat) (declared : List String) (ms : Members) : List Violation :=
  let path := itemPath "properties" i ++ ".name"
  match (ms.lookup "name").bind Json.string? with
  | none => [.plain .invalidProperty path "Property must declare a string 'name'"]
  | some s =>
    if Name.isIdentifier s then
      if declared.contains s then
        [⟨.duplicatePropertyName, path,
          "Property name '" ++ s ++ "' at index " ++ toString i ++ " is declared more than once",
          .object [("index", .ofNat i), ("property", .string s)]⟩]
      else []
    else
      [.plain .invalidProperty path ("Property name '" ++ s ++ "' must match ^[a-z][a-zA-Z0-9]*$")]

/-- What a property holds besides its name. -/
def checkPropertyFields (notes : Bool) (i : Nat) (ms : Members) : List Violation :=
  let path := itemPath "properties" i
  when (!((ms.lookup "propertyType").bind Json.string?).any Name.isReference) .invalidReference
    (path ++ ".propertyType")
    "Property must declare a 'propertyType' of the form name or system/name"
  ++ (["isArray", "isRequired"].flatMap fun k =>
      when (misused Json.isBool (ms.lookup k)) .invalidProperty (path ++ "." ++ k)
        ("'" ++ k ++ "' must be a boolean"))
  ++ when (misused Json.isString (ms.lookup "summary")) .invalidProperty (path ++ ".summary")
      "'summary' must be a string"
  ++ unknownFields .invalidProperty (fun k => path ++ "." ++ k) propertyFields "a property" ms
  ++ summaryNote notes .missingPropertySummary (path ++ ".summary") "Property should have a summary"
      (ms.lookup "summary")

/-- Properties from an index on; `declared` holds the names declared before them. -/
def checkPropertyList (notes : Bool) (i : Nat) (declared : List String) :
    List Json → List Violation
  | [] => []
  | .object ms :: properties =>
    checkPropertyName i declared ms ++ checkPropertyFields notes i ms
    ++ checkPropertyList notes (i + 1) ((declaredName? (.object ms)).toList ++ declared) properties
  | _ :: properties =>
    .plain .invalidProperty (itemPath "properties" i) "Property must be an object"
      :: checkPropertyList notes (i + 1) declared properties

def checkProperties (notes : Bool) (ms : Members) : List Violation :=
  match (ms.lookup "properties").bind Json.items? with
  | none => [.plain .missingField "properties" "Record type must declare a 'properties' array"]
  | some properties =>
    when properties.isEmpty .invalidProperty "properties"
      "Record type must declare at least one property"
    ++ checkPropertyList notes 0 [] properties

/-- The names of a list that are not declared. -/
def undeclared (rule : Rule) (path noun : String) (declared names : List String) : List Violation :=
  names.zipIdx.flatMap fun (name, i) =>
    if declared.contains name then []
    else
      [⟨rule, itemPath path i, noun ++ " '" ++ name ++ "' is not declared in 'properties'",
        .object [("property", .string name)]⟩]

/-- The list of required properties. -/
def checkRequiredList (declared : List String) (ms : Members) : List Violation :=
  match ms.lookup "required" with
  | none => []
  | some v =>
    match strings? v with
    | some names =>
      undeclared .unknownRequiredProperty "required" "Required property" declared names
    | none => [.plain .missingField "required" "'required' must be an array of property names"]

/-- The name of a variant: an identifier that no variant before it has. -/
def checkVariantName (i : Nat) (seen : List String) (variant : Json) : List Violation :=
  let path := itemPath "variants" i ++ ".name"
  match declaredName? variant with
  | none =>
    [.plain .invalidVariant path "Variant must declare a 'name' matching ^[a-z][a-zA-Z0-9]*$"]
  | some s =>
    if seen.contains s then
      [⟨.duplicateVariantName, path, "Variant name '" ++ s ++ "' is declared more than once",
        .object [("index", .ofNat i), ("variant", .string s)]⟩]
    else []

/-- What a variant holds besides its name. -/
def checkVariantFields (notes : Bool) (i : Nat) (declared : List String) (ms : Members) :
    List Violation :=
  let path := itemPath "variants" i
  when ((ms.lookup "includeProperties").isSome == (ms.lookup "excludeProperties").isSome)
    .invalidVariant path
    "Variant must declare exactly one of 'includeProperties' or 'excludeProperties'"
  ++ (["includeProperties", "excludeProperties", "required"].flatMap fun k =>
      match ms.lookup k with
      | none => []
      | some v =>
        match strings? v with
        | none =>
          [.plain .invalidVariant (path ++ "." ++ k)
            ("'" ++ k ++ "' must be an array of property names")]
        | some names =>
          undeclared .unknownVariantProperty (path ++ "." ++ k) "Variant property" declared names)
  ++ when (misused Json.isString (ms.lookup "summary")) .invalidVariant (path ++ ".summary")
      "'summary' must be a string"
  ++ unknownFields .invalidVariant (fun k => path ++ "." ++ k) variantFields "a variant" ms
  ++ summaryNote notes .missingVariantSummary (path ++ ".summary") "Variant should have a summary"
      (ms.lookup "summary")

/-- Variants from an index on; `seen` holds the names of those before them. -/
def checkVariantList (notes : Bool) (declared : List String) (i : Nat) (seen : List String) :
    List Json → List Violation
  | [] => []
  | .object ms :: variants =>
    checkVariantName i seen (.object ms) ++ checkVariantFields notes i declared ms
    ++ checkVariantList notes declared (i + 1) ((declaredName? (.object ms)).toList ++ seen)
        variants
  | _ :: variants =>
    .plain .invalidVariant (itemPath "variants" i) "Variant must be an object"
      :: checkVariantList notes declared (i + 1) seen variants

def checkVariants (notes : Bool) (declared : List String) (ms : Members) : List Violation :=
  match ms.lookup "variants" with
  | none => []
  | some (.array variants) => checkVariantList notes declared 0 [] variants
  | some _ => [.plain .invalidVariant "variants" "'variants' must be an array"]

def checkRecord (notes : Bool) (ms : Members) : List Violation :=
  let declared := declaredNames ms
  checkProperties notes ms ++ checkRequiredList declared ms ++ checkVariants notes declared ms

/-! ## The definition -/

/-- The kind of a definition. -/
def kind? (ms : Members) : Option TypeKind :=
  ((ms.lookup "kind").bind Json.string?).bind TypeKind.ofText?

def checkKind (ms : Members) : List Violation :=
  match (ms.lookup "kind").bind Json.string? with
  | none => [.plain .unknownKind "kind" "Type definition must declare a string 'kind'"]
  | some s =>
    when (TypeKind.ofText? s).isNone .unknownKind "kind"
      ("Unknown kind '" ++ s ++ "'. Must be one of: "
        ++ ", ".intercalate (TypeKind.all.map TypeKind.text))

/-- What a kind asks for. -/
def checkBody (notes : Bool) (kind : TypeKind) (ms : Members) : List Violation :=
  match kind with
  | .bool => checkTestCases false ms
  | .enum => checkEnum notes ms
  | .int => checkInt ms ++ checkTestCases false ms
  | .float => checkFloat ms ++ checkTestCases false ms
  | .string => checkString ms ++ checkTestCases false ms
  | .object =>
    when (!(ms.lookup "jsonSchema").any Json.isObject) .missingField "jsonSchema"
      "Object type must declare a 'jsonSchema' object"
    ++ checkTestCases false ms
  | .record => checkRecord notes ms ++ checkTestCases true ms

/-- The rules that a raw definition breaks. Where the kind is unknown, the header is checked and
nothing else. -/
def check (notes : Bool) : Json → List Violation
  | .object ms =>
    checkKind ms ++ checkHeader notes ms
    ++ match kind? ms with
      | none => []
      | some kind =>
        unknownFields .unknownField id (headerFields ++ kindFields kind)
          ("a " ++ kind.text ++ " type") ms
        ++ checkBody notes kind ms
  | _ => [.plain .notAnObject "" "Type definition must be an object"]

/-- The functional pass, whose violations are errors. -/
def violations (v : Json) : List Violation := check false v

/-- The functional pass together with the documentation rules. -/
def documented (v : Json) : List Violation := check true v

/-- The violations of a documented pass that a functional pass has not reported, by rule and path.
-/
def warnings (functional documented : List Violation) : List Violation :=
  documented.filter fun d => !functional.any fun f => f.rule = d.rule && f.path = d.path

end TypeCatalog.Shape
