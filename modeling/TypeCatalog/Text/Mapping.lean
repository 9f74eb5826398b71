import TypeCatalog.Text.Ranges

/-!
# Tables of characters that stand for others

A mapping gives a text for each code point of a range. Tables of mappings are written as texts:
`DF>73.73` for a single code point with the code points of its text, `41-5A>61` for a range whose
texts are single characters that move along with it, and `2000-200A=20` for a range with one text.
-/

set_option autoImplicit false

namespace TypeCatalog.Text

/-- The texts of a range of code points. -/
structure Mapping where
  source : Range
  /-- The code points of the text for the first code point. -/
  target : List Nat
  /-- Whether a single character moves along with the code point it stands for. -/
  moves : Bool
deriving DecidableEq, Inhabited

namespace Mapping

/-- The text that a mapping gives for a code point of its range. -/
def text (m : Mapping) (n : Nat) : List Nat :=
  match m.moves, m.target with
  | true, [t] => [t + (n - m.source.first)]
  | _, ts => ts

/-- One item of a table. -/
def parse (cs : List Char) : Mapping :=
  let (source, rest) := cs.span fun c => c != '>' && c != '='
  ⟨Range.parse source, (rest.tail.splitOn '.').map Range.hexValue, rest.head? = some '>'⟩

/-- The mappings of a table. -/
def parseList (table : String) : List Mapping := (Range.itemTexts [] table.toList).map parse

/-- The text that a table gives for a code point. -/
def find? (table : List Mapping) (n : Nat) : Option (List Nat) :=
  (table.find? (·.source.contains n)).map (·.text n)

/-- The single code point for which a table gives a text. -/
def source? (table : List Mapping) (text : List Nat) : Option Nat :=
  (table.find? (·.target = text)).map (·.source.first)

end Mapping

end TypeCatalog.Text
