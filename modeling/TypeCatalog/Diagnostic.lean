import TypeCatalog.Json.Basic
import TypeCatalog.Rule

/-!
# Diagnostics and reports

A `Diagnostic` is one problem of one type. A `Report` keeps the errors and the warnings of a batch
apart, each in the order in which they were recorded.

`Diagnostic.ofRule` and `Diagnostic.ofKind` make a diagnostic, and `Report.push` puts it on one of
the two lists by its `severity`. `Report.extend` pushes one after the other, `Report.merge` joins
two reports; `Report.isSuccessful` asks for no errors, `Report.isClean` for no warnings either, and
`Report.check` fails with all of the errors at once.
-/

set_option autoImplicit false

namespace TypeCatalog

/-- A single error or warning. -/
structure Diagnostic where
  /-- The qualified name of the type, or the best name there is for it. -/
  typeName : String
  kind : Kind
  rule : Option Rule
  message : String
  /-- Paths, indices, suggestions and causes; `null` when there are none. -/
  details : Json
deriving DecidableEq, Inhabited

namespace Diagnostic

/-- A problem that no rule stands for. -/
def ofKind (typeName : String) (kind : Kind) (message : String) (details : Json) : Diagnostic :=
  ⟨typeName, kind, none, message, details⟩

/-- A problem that a rule found. -/
def ofRule (typeName : String) (rule : Rule) (message : String) (details : Json) : Diagnostic :=
  ⟨typeName, rule.kind, some rule, message, details⟩

def severity (d : Diagnostic) : Severity := d.kind.severity

/-- The line that is shown for a diagnostic. -/
def text (d : Diagnostic) : String :=
  let code := match d.rule with
    | some r => "[" ++ r.code ++ "] "
    | none => ""
  code ++ d.severity.text ++ " " ++ d.kind.text ++ ": " ++ d.message ++ " (" ++ d.typeName ++ ")"

/-- The members of a diagnostic; a rule or details that are not there are left out. -/
def toJson (d : Diagnostic) : Json :=
  .object <|
    [("typeName", .string d.typeName), ("kind", .string d.kind.name)]
    ++ (match d.rule with
        | some r => [("rule", .string r.name)]
        | none => [])
    ++ [("message", .string d.message)]
    ++ (if d.details = .null then [] else [("details", d.details)])

end Diagnostic

/-- The errors and the warnings of a batch. -/
structure Report where
  errors : List Diagnostic
  warnings : List Diagnostic
deriving DecidableEq, Inhabited

namespace Report

def empty : Report := ⟨[], []⟩

/-- Records a diagnostic with those of its severity. -/
def push (r : Report) (d : Diagnostic) : Report :=
  match d.severity with
  | .error => { r with errors := r.errors ++ [d] }
  | .warning => { r with warnings := r.warnings ++ [d] }

/-- Records diagnostics one after the other. -/
def extend (r : Report) (ds : List Diagnostic) : Report := ds.foldl push r

/-- The report of diagnostics in their order. -/
def ofList (ds : List Diagnostic) : Report := empty.extend ds

/-- Records what another report holds. -/
def merge (r s : Report) : Report := ⟨r.errors ++ s.errors, r.warnings ++ s.warnings⟩

/-- The errors of one type. -/
def errorsFor (r : Report) (typeName : String) : List Diagnostic :=
  r.errors.filter (·.typeName = typeName)

/-- Whether there are no errors. -/
def isSuccessful (r : Report) : Bool := r.errors.isEmpty

/-- Whether there are neither errors nor warnings. -/
def isClean (r : Report) : Bool := r.errors.isEmpty && r.warnings.isEmpty

/-- The errors as a failure, when there are any. -/
def check (r : Report) : Except (List Diagnostic) Unit :=
  if r.isSuccessful then .ok () else .error r.errors

/-- The number of errors and of warnings in words. -/
def countText (r : Report) : String :=
  toString r.errors.length ++ " error(s), " ++ toString r.warnings.length ++ " warning(s)"

/-- One line for each diagnostic, and a last one with their numbers. -/
def text (r : Report) : String :=
  String.join ((r.errors ++ r.warnings).map fun d => d.text ++ "\n")
    ++ (if r.isClean then "" else "\n" ++ r.countText ++ "\n")

end Report

/-- The message of a failure that bundles errors. -/
def Diagnostic.bundleText (errors : List Diagnostic) : String :=
  "Compilation failed with " ++ toString errors.length ++ " error(s):\n"
    ++ "\n".intercalate (errors.map fun d => "  " ++ d.text)

end TypeCatalog
