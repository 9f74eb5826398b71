/-!
# Ranges of code points

Tables of characters are written as texts: `41-5A` for a range, `100-12E:2` for every second code
point of a range, and `AA` for a single one, in hexadecimal digits with blanks or line ends between
the items.
-/

set_option autoImplicit false

namespace TypeCatalog.Text

/-- The code points from `first` to `last`, `step` apart. -/
structure Range where
  first : Nat
  last : Nat
  step : Nat
deriving DecidableEq, Inhabited

namespace Range

/-- Whether a code point is in the range. -/
def contains (r : Range) (n : Nat) : Bool :=
  r.first ≤ n && n ≤ r.last && (n - r.first) % r.step == 0

/-- The value of a hexadecimal digit in capitals. -/
def digit (c : Char) : Nat := if c.toNat < 65 then c.toNat - 48 else c.toNat - 55

/-- The value of hexadecimal digits in capitals. -/
def hexValue (cs : List Char) : Nat := cs.foldl (fun n c => 16 * n + digit c) 0

/-- One item of a table. -/
def parse (cs : List Char) : Range :=
  let (bounds, step) := cs.span (· ≠ ':')
  let (first, last) := bounds.span (· ≠ '-')
  let low := hexValue first
  ⟨low, if last.isEmpty then low else hexValue last.tail,
    if step.isEmpty then 1 else hexValue step.tail⟩

/-- The items of a table, which stand between blanks and line ends, with the item that is being read
in reverse. -/
def itemTexts (item : List Char) : List Char → List (List Char)
  | [] => if item.isEmpty then [] else [item.reverse]
  | c :: cs =>
    if c = ' ' ∨ c = '\n' then
      if item.isEmpty then itemTexts [] cs else item.reverse :: itemTexts [] cs
    else itemTexts (c :: item) cs

/-- The ranges of a table. -/
def parseList (s : String) : List Range := (itemTexts [] s.toList).map parse

end Range

end TypeCatalog.Text
