import TypeCatalog.Json.Basic

/-!
# Outcomes of a validation

A value that does not fit a schema is reported by a list of errors, each with the place inside the
value where it arises. A value is valid when there are none.

`ValueError.inside` puts the `segment` of a member or an item in front of a place, with `~0` and
`~1` for a tilde and a slash; `Outcome.summary` joins the errors by semicolons.
-/

set_option autoImplicit false

namespace TypeCatalog

/-- What is wrong at one place of a value. -/
structure ValueError where
  /-- The place, as a pointer from the whole value. -/
  path : String
  message : String
  /-- Whether the place is told. -/
  isPlaced : Bool
deriving DecidableEq, Inhabited

namespace ValueError

/-- An error of the whole value. -/
def here (message : String) : ValueError := ⟨"", message, true⟩

/-- An error that tells no place. -/
def nowhere (message : String) : ValueError := ⟨"", message, false⟩

/-- A segment of a pointer for a name. -/
def segment (name : String) : String :=
  "/" ++ String.join (name.toList.map fun c =>
    if c = '~' then "~0" else if c = '/' then "~1" else c.toString)

/-- The error of a part as an error of the whole. -/
def inside (name : String) (e : ValueError) : ValueError :=
  if e.isPlaced then { e with path := segment name ++ e.path } else e

/-- The errors of a part as errors of the whole. -/
def allInside (name : String) (es : List ValueError) : List ValueError := es.map (inside name)

/-- An error with its place, if it is not at the top. -/
def text (e : ValueError) : String :=
  if e.path.isEmpty then e.message else e.path ++ ": " ++ e.message

def toJson (e : ValueError) : Json :=
  .object [("path", .string e.path), ("message", .string e.message)]

end ValueError

/-- The result of validating a value. -/
structure Outcome where
  errors : List ValueError
deriving DecidableEq, Inhabited

namespace Outcome

def isValid (o : Outcome) : Bool := o.errors.isEmpty

/-- The errors in one line. -/
def summary (o : Outcome) : String := "; ".intercalate (o.errors.map (·.text))

end Outcome

end TypeCatalog
