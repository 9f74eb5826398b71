import TypeCatalog.Diagnostic

/-!
# Violations

A violation is a rule that a definition breaks, with the place inside the definition.

`Violation.toDiagnostic` makes a diagnostic of it, with the place as the member `path` of the
details.
-/

set_option autoImplicit false

namespace TypeCatalog

/-- A rule that a definition breaks. -/
structure Violation where
  rule : Rule
  /-- The place inside the definition, such as `properties[2].name`. -/
  path : String
  message : String
  /-- What else is known; `null` when there is nothing. -/
  details : Json
deriving DecidableEq, Inhabited

namespace Violation

/-- A violation without details. -/
def plain (rule : Rule) (path message : String) : Violation := ⟨rule, path, message, .null⟩

/-- The details with the path behind them. -/
def detailsWithPath (v : Violation) : Json :=
  .object (Json.put "path" (.string v.path) (v.details.members?.getD []))

/-- The diagnostic for a violation by a type. -/
def toDiagnostic (v : Violation) (typeName : String) : Diagnostic :=
  .ofRule typeName v.rule v.message v.detailsWithPath

end Violation

end TypeCatalog
