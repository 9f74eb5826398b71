import TypeCatalog.Definition.Encode
import TypeCatalog.Diagnostic
import TypeCatalog.Validation.Engine

/-!
# Declared values

A definition declares values: examples and valid cases, which its validator has to accept, invalid
cases, which it has to reject, and the data of an enum's items, which have to fit the enum's data
type.

`TypeValidator.verify` goes through `examples`, `validTestCases` and `invalidTestCases`: `rejected`
gives a diagnostic for each value that is not accepted, `accepted` one for each that is.
`verifyItemData` does the same with the `data` of `items` and the validator of the `dataType`.
-/

set_option autoImplicit false

namespace TypeCatalog

/-- The index of a declared value with the errors that it has. -/
def Outcome.details (o : Outcome) (index : Nat) : Json :=
  .object [("index", .ofNat index), ("errors", .array (o.errors.map (·.toJson)))]

namespace TypeValidator

/-- A diagnostic for each value that should be accepted and is not. -/
def rejected (t : TypeValidator) (typeName : String) (kind : Kind) (label : String)
    (cases : List Example) : List Diagnostic :=
  cases.zipIdx.filterMap fun (c, i) =>
    let outcome := t.validate c.value
    if outcome.isValid then none
    else some <| .ofKind typeName kind
      (label ++ " " ++ toString i ++ " was rejected: " ++ outcome.summary) (outcome.details i)

/-- A diagnostic for each value that should be rejected and is not. -/
def accepted (t : TypeValidator) (typeName : String) (cases : List Example) : List Diagnostic :=
  cases.zipIdx.filterMap fun (c, i) =>
    if t.accepts c.value then
      some <| .ofKind typeName .testCaseInvalidation
        ("Invalid test case " ++ toString i ++ " was accepted")
        (.object [("index", .ofNat i), ("value", c.value)])
    else none

/-- Checks the examples and the test cases of a definition. -/
def verify (t : TypeValidator) (d : Definition) : List Diagnostic :=
  t.rejected d.typeName .exampleValidation "Example" d.examples
    ++ t.rejected d.typeName .testCaseValidation "Valid test case" d.validCases
    ++ t.accepted d.typeName d.invalidCases

/-- Checks the data of an enum's items against the validator of its data type. An item without data
has `null`. -/
def verifyItemData (t : TypeValidator) (d : Definition) : List Diagnostic :=
  match d.body with
  | .enum b =>
    b.items.zipIdx.filterMap fun (item, i) =>
      let outcome := t.validate (item.data.getD .null)
      if outcome.isValid then none
      else some <| .ofKind d.typeName .enumItemDataValidation
        ("Data of item '" ++ item.value ++ "' does not match '" ++ t.typeName ++ "': "
          ++ outcome.summary)
        (outcome.details i)
  | _ => []

end TypeValidator

end TypeCatalog
