import TypeCatalog.Text.Ascii

/-!
# Identifiers of 128 bits

An identifier is written in 32 hexadecimal digits in five groups with hyphens between them.
-/

set_option autoImplicit false

namespace TypeCatalog.Uuid

/-- The numbers of digits in the groups. -/
def groups : List Nat := [8, 4, 4, 4, 12]

def isUuid (cs : List Char) : Bool :=
  let parts := cs.splitOn '-'
  parts.map List.length == groups && parts.all (·.all Ascii.isHexDigit)

end TypeCatalog.Uuid
