import TypeCatalog.Text.Ascii

/-!
# Hosts

The names of hosts in ASCII, and their addresses of four octets and of eight groups.
-/

set_option autoImplicit false

namespace TypeCatalog.HostName

/-! ## Names -/

/-- Whether a text is a label: letters, digits and hyphens, with no hyphen at the ends. -/
def isLabel (cs : List Char) : Bool :=
  decide (1 ≤ cs.length ∧ cs.length ≤ 63) && cs.head? != some '-' && cs.getLast? != some '-'
    && cs.all fun c => Ascii.isAlphanumeric c || c == '-'

/-- Whether a text is the name of a host: labels with dots between them. -/
def isHostName (cs : List Char) : Bool :=
  decide (cs.length ≤ 253) && (cs.splitOn '.').all isLabel

/-! ## Addresses -/

/-- Whether digits are a number below 256 without needless zeros. -/
def isOctet (cs : List Char) : Bool :=
  !cs.isEmpty && decide (cs.length ≤ 3) && (cs.head? != some '0' || cs.length == 1)
    && (Ascii.decimal? cs).any (· < 256)

/-- Whether a text is an address of four octets. -/
def isAddress4 (cs : List Char) : Bool :=
  let parts := cs.splitOn '.'
  parts.length == 4 && parts.all isOctet

/-- The number of groups of sixteen bits in a list of groups, of which the last may be written as an
address of four octets. -/
def groupCount? (parts : List (List Char)) : Option Nat :=
  let isGroup (cs : List Char) : Bool :=
    decide (1 ≤ cs.length ∧ cs.length ≤ 4) && cs.all Ascii.isHexDigit
  let last := parts.getLast?.getD []
  if isAddress4 last then
    if parts.dropLast.all isGroup then some (parts.length + 1) else none
  else if parts.all isGroup then some parts.length else none

/-- What stands before and behind the first double colon. -/
def splitDoubleColon : List Char → Option (List Char × List Char)
  | ':' :: ':' :: cs => some ([], cs)
  | c :: cs => (splitDoubleColon cs).map fun (before, after) => (c :: before, after)
  | [] => none

/-- Whether a text is an address of eight groups. -/
def isAddress6 (cs : List Char) : Bool :=
  match splitDoubleColon cs with
  | none => groupCount? (cs.splitOn ':') == some 8
  | some (before, after) =>
    let count (side : List Char) : Option Nat :=
      if side.isEmpty then some 0 else groupCount? (side.splitOn ':')
    !before.contains '.' &&
      match count before, count after with
      | some m, some n => decide (m + n ≤ 7)
      | _, _ => false

end TypeCatalog.HostName
