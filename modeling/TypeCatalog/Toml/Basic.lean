import TypeCatalog.Json.Real

/-!
# Values of settings documents

A document is a table. Dates and times keep their text in the form of RFC 3339. The values are
those of TOML, and `Toml.null` for the documents of settings that are written in JSON: no TOML
document holds it.
-/

set_option autoImplicit false

namespace TypeCatalog

/-- A value of a settings document. -/
inductive Toml where
  | null
  | string (s : String)
  | integer (n : Int)
  | float (x : Real64)
  | boolean (b : Bool)
  /-- A date, a time, or both. -/
  | moment (text : String)
  | array (items : List Toml)
  | table (entries : List (String × Toml))
deriving Inhabited

namespace Toml

/-- An integer of 64 bits. -/
def int64? (n : Int) : Option Int := if Number.fitsInt64 n then some n else none

end Toml

end TypeCatalog
