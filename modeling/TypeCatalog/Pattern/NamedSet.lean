import TypeCatalog.Text.Trait

/-!
# Sets with a name

A pattern names sets of characters: the classes of ASCII that stand in brackets and colons, and the
digits, words and blanks that an escaped letter stands for.
-/

set_option autoImplicit false

namespace TypeCatalog.Pattern

open Text (CharSet)

/-- The class of ASCII that stands in brackets and colons. -/
def asciiClass? (name : String) : Option CharSet :=
  match name with
  | "alnum" => some (.parse "30-39 41-5A 61-7A")
  | "alpha" => some (.parse "41-5A 61-7A")
  | "ascii" => some (.parse "0-7F")
  | "blank" => some (.parse "9 20")
  | "cntrl" => some (.parse "0-1F 7F")
  | "digit" => some (.parse "30-39")
  | "graph" => some (.parse "21-7E")
  | "lower" => some (.parse "61-7A")
  | "print" => some (.parse "20-7E")
  | "punct" => some (.parse "21-2F 3A-40 5B-60 7B-7E")
  | "space" => some (.parse "9-D 20")
  | "upper" => some (.parse "41-5A")
  | "word" => some (.parse "30-39 41-5A 5F 61-7A")
  | "xdigit" => some (.parse "30-39 41-46 61-66")
  | _ => none

/-- Letters, marks, digits, connectors and the two joining characters. -/
def wordSet : CharSet :=
  .unionAll
    [Text.Trait.alphabetic, Text.Category.marks, Text.Category.decimalNumber.set,
     Text.Category.connectorPunctuation.set, .parse "200C-200D"]

/-- A class that an escaped letter stands for. -/
inductive LetterClass where
  | digit
  | space
  | word
deriving DecidableEq, Inhabited

namespace LetterClass

/-- The characters of a class. -/
def set : LetterClass → CharSet
  | digit => Text.Category.decimalNumber.set
  | space => Text.Trait.whiteSpace
  | word => wordSet

/-- The characters of a class in ASCII. -/
def asciiSet : LetterClass → CharSet
  | digit => .parse "30-39"
  | space => .parse "9-D 20"
  | word => .parse "30-39 41-5A 5F 61-7A"

end LetterClass

end TypeCatalog.Pattern
