import TypeCatalog.Text.Ascii

/-!
# Punycode

Text of any script is written in letters, digits and hyphens: first the characters that are in
ASCII, then, behind a hyphen, the others in the order of their code points. Each of these is written
as the number of steps from the one before, where a step goes to the next place in the text, and
from the last place to the first one with the next code point. The digits of a number stand for less
and less the higher they are, by a bias that follows the numbers before.
-/

set_option autoImplicit false

namespace TypeCatalog.Text.Punycode

/-! ## Numbers -/

/-- The digit of a value below 36: letters, then digits. -/
def digit (d : Nat) : Char := Char.ofNat (if d < 26 then 0x61 + d else 0x30 + (d - 26))

def digitValue? (c : Char) : Option Nat :=
  if Ascii.isLetter c then some ((Ascii.lower c).toNat - 0x61)
  else if Ascii.isDigit c then some (c.toNat - 0x30 + 26)
  else none

/-- The value from which on the digit at a position is not the last one. -/
def threshold (position bias : Nat) : Nat := min 26 (max 1 (36 * position - bias))

/-- A digit has a threshold of at least one, so the digits behind it have fewer signs left to use
and reading ends. -/
theorem threshold_pos (position bias : Nat) : 1 ≤ threshold position bias := by
  unfold threshold; omega

/-- Divides a distance until it is small, and counts the positions. -/
def reduce (distance position : Nat) : Nat × Nat :=
  if 455 < distance then reduce (distance / 35) (position + 1) else (distance, position)
termination_by distance
decreasing_by omega

/-- The bias behind a number of steps, in a text that then has a number of characters. -/
def adapt (steps count : Nat) (isFirst : Bool) : Nat :=
  let distance := steps / (if isFirst then 700 else 2)
  let (distance, position) := reduce (distance + distance / count) 0
  36 * position + 36 * distance / (distance + 38)

/-- The digits of a number from a position on. -/
def digits (bias position n : Nat) : List Char :=
  let t := threshold position bias
  if n < t then [digit n]
  else digit (t + (n - t) % (36 - t)) :: digits bias (position + 1) ((n - t) / (36 - t))
termination_by n
decreasing_by
  have := threshold_pos position bias
  have := Nat.div_le_self (n - threshold position bias) (36 - threshold position bias)
  omega

/-- Reads the digits of a number from a position on, where a digit counts a weight, and adds them to
a number. -/
def readNumber? (bias position weight n : Nat) : List Char → Option (Nat × List Char)
  | [] => none
  | c :: cs => do
    let d ← digitValue? c
    let t := threshold position bias
    if d < t then pure (n + d * weight, cs)
    else readNumber? bias (position + 1) (weight * (36 - t)) (n + d * weight) cs

/-! ## Texts -/

def isAscii (c : Char) : Bool := c.toNat < 0x80

/-- The bias of the first number. -/
def firstBias : Nat := 72

/-- A text while characters are put into it. -/
structure Insertion where
  text : List Char
  /-- The code point and the place at which the steps to the next character begin. -/
  code : Nat
  place : Nat
  bias : Nat

/-- The text with one more character, a number of steps away. There may be no such character. -/
def Insertion.next? (s : Insertion) (steps : Nat) : Option Insertion :=
  let count := s.text.length + 1
  let code := s.code + (s.place + steps) / count
  let place := (s.place + steps) % count
  if code.isValidChar then
    some ⟨s.text.insertIdx place (Char.ofNat code), code, place + 1,
      adapt steps count (s.place = 0)⟩
  else none

/-- Puts the characters into a text whose numbers of steps are read. There are no more of them than
digits. -/
def insertAll? : Nat → Insertion → List Char → Option (List Char)
  | _, s, [] => some s.text
  | 0, _, _ => none
  | bound + 1, s, cs => do
    let (steps, rest) ← readNumber? s.bias 1 1 0 cs
    insertAll? bound (← s.next? steps) rest

/-- The text that is written by another one. -/
def decode? (cs : List Char) : Option (List Char) :=
  let (reversedDigits, reversedBasic) := cs.reverse.span (· ≠ '-')
  insertAll? cs.length ⟨reversedBasic.tail.reverse, 0x80, 0, firstBias⟩ reversedDigits.reverse

/-- A text while its characters are written. -/
structure Writing where
  written : List Char
  /-- The number of steps behind the last character that was written. -/
  steps : Nat
  bias : Nat
  /-- The number of characters that were written. -/
  count : Nat

/-- Goes on to the next place of a text, and writes the character there if it has a code point. -/
def Writing.next (basic code : Nat) (w : Writing) (c : Char) : Writing :=
  if c.toNat < code then { w with steps := w.steps + 1 }
  else if c.toNat = code then
    ⟨w.written ++ digits w.bias 1 w.steps, 0,
      adapt w.steps (w.count + 1) (w.count = basic), w.count + 1⟩
  else w

/-- Writes the characters with some code points, which ascend, beginning with a code point. -/
def writeAll (text : List Char) (basic : Nat) : List Nat → Nat → Writing → Writing
  | [], _, w => w
  | code :: codes, start, w =>
    let w := { w with steps := w.steps + (code - start) * (w.count + 1) }
    let w := text.foldl (Writing.next basic code) w
    writeAll text basic codes (code + 1) { w with steps := w.steps + 1 }

/-- The text by which another one is written. -/
def encode (cs : List Char) : List Char :=
  let basic := cs.filter isAscii
  let codes := (((cs.filter (!isAscii ·)).map Char.toNat).mergeSort (· ≤ ·)).eraseDups
  basic ++ (if basic.isEmpty then [] else ['-'])
    ++ (writeAll cs basic.length codes 0x80 ⟨[], 0, firstBias, basic.length⟩).written

end TypeCatalog.Text.Punycode
