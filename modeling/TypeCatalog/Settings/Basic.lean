/-!
# Settings

What a batch is compiled with. In a document of settings the fields are `domain`,
`documentation.enabled`, `engine.validate_formats` and `engine.parallel`.
-/

set_option autoImplicit false

namespace TypeCatalog

/-- What a batch is compiled with. -/
structure Settings where
  /-- What the addresses of the documents begin with. -/
  domain : String
  /-- Whether the documentation of the definitions is checked. -/
  documentation : Bool
  /-- Whether the formats of texts are conditions. -/
  validateFormats : Bool
  /-- Whether the work may be shared among processors. No result depends on it. -/
  parallel : Bool
deriving DecidableEq

namespace Settings

/-- The settings where nothing else is said. -/
def standard : Settings := ⟨"https://jsonotron.org", true, true, true⟩

instance : Inhabited Settings := ⟨standard⟩

end Settings

end TypeCatalog
