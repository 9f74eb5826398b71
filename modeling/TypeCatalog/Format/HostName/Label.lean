import TypeCatalog.Format.HostName.Folding
import TypeCatalog.Text.Composition
import TypeCatalog.Text.Direction
import TypeCatalog.Text.Joining
import TypeCatalog.Text.Punycode

/-!
# Labels of any script

A label of a host name may hold characters of any script. Such a label is also written in ASCII, as
`xn--` with its text in Punycode. `Label.ofText?` reads either form of a label that has been folded.
-/

set_option autoImplicit false

namespace TypeCatalog.HostName

open Text

/-- A label of a host name. -/
structure Label where
  /-- The label in the characters that it stands for. -/
  text : List Char
  /-- The number of characters of its form in ASCII. -/
  size : Nat
deriving Inhabited

namespace Label

/-! ## Characters -/

/-- Characters that keep others apart, or join them. -/
def nonJoiner : Char := Char.ofNat 0x200C
def joiner : Char := Char.ofNat 0x200D

/-- Whether a sign that takes the vowel off a letter ends a text, which stands in reverse. -/
def endsWithVirama (reversed : List Char) : Bool :=
  reversed.head?.any fun c => CombiningClass.ofCode c.toNat = CombiningClass.virama

/-- Whether each character that joins, or keeps apart, stands where it may. The characters that come
first stand in reverse. -/
def joinsWell (reversed : List Char) : List Char → Bool
  | [] => true
  | c :: cs =>
    (if c = joiner then endsWithVirama reversed
      else c != nonJoiner || endsWithVirama reversed || Joining.joinsAcross reversed cs)
    && joinsWell (c :: reversed) cs

/-- Whether a character may stand in a label. Of ASCII, there are small letters, digits and hyphens.
-/
def isAllowed (c : Char) : Bool :=
  Folding.keeps c && (!Punycode.isAscii c || Ascii.isAlphanumeric c || c == '-')

/-- Whether hyphens stand only where they mean nothing else: not at the ends, and not in the third
and fourth place. -/
def hyphenatesWell (cs : List Char) : Bool :=
  cs.head? != some '-' && cs.getLast? != some '-' && (cs.drop 2).take 2 != ['-', '-']

/-- Whether a text is a label. -/
def isValid (cs : List Char) : Bool :=
  cs.all isAllowed && hyphenatesWell cs && cs.head?.any (!Category.marks.contains ·)
    && joinsWell [] cs

/-! ## Directions -/

/-- Whether a text has characters that run from right to left. -/
def hasRightToLeft (cs : List Char) : Bool :=
  cs.any fun c => [.rightToLeft, .arabicNumber].contains (Direction.of c)

/-- The direction of the last character that is no mark. -/
def lastDirection? (cs : List Char) : Option Direction :=
  (cs.reverse.map Direction.of).find? (· ≠ .mark)

/-- Whether the directions of a label leave no doubt about the order of its characters. -/
def runsWell (cs : List Char) : Bool :=
  let directions := cs.map Direction.of
  let endsWith (ds : List Direction) : Bool := (lastDirection? cs).any ds.contains
  match directions.head? with
  | some .rightToLeft =>
    !directions.contains .leftToRight && endsWith [.rightToLeft, .europeanNumber, .arabicNumber]
      && !(directions.contains .europeanNumber && directions.contains .arabicNumber)
  | some .leftToRight =>
    !directions.contains .rightToLeft && !directions.contains .arabicNumber
      && endsWith [.leftToRight, .europeanNumber]
  | _ => false

/-! ## Forms -/

/-- What the form in ASCII of a label with other characters begins with. -/
def mark : List Char := "xn--".toList

/-- The text of a form in ASCII, behind its mark. It has other characters and is folded. -/
def decoded? (cs : List Char) : Option (List Char) := do
  guard (cs.all Punycode.isAscii)
  let text ← Punycode.decode? cs
  guard (!text.all Punycode.isAscii && text.all Folding.keeps && Composition.compose text = text)
  pure text

/-- The label of a folded text. -/
def ofText? (cs : List Char) : Option Label := do
  let label ←
    if mark.isPrefixOf cs then (decoded? (cs.drop mark.length)).map (⟨·, cs.length⟩)
    else if cs.all Punycode.isAscii then some ⟨cs, cs.length⟩
    else some ⟨cs, mark.length + (Punycode.encode cs).length⟩
  guard (isValid label.text && decide (1 ≤ label.size ∧ label.size ≤ 63))
  pure label

end Label

end TypeCatalog.HostName
