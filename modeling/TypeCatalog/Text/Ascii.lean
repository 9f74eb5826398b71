/-!
# Letters and digits of ASCII

The classes of characters that the grammars of addresses, numbers and settings are made of. None of
them has a character outside ASCII.
-/

set_option autoImplicit false

namespace TypeCatalog.Ascii

def isLetter (c : Char) : Bool := decide (('a' ≤ c ∧ c ≤ 'z') ∨ ('A' ≤ c ∧ c ≤ 'Z'))
def isDigit (c : Char) : Bool := decide ('0' ≤ c ∧ c ≤ '9')
def isAlphanumeric (c : Char) : Bool := isLetter c || isDigit c

def isHexDigit (c : Char) : Bool :=
  isDigit c || decide (('a' ≤ c ∧ c ≤ 'f') ∨ ('A' ≤ c ∧ c ≤ 'F'))

/-- A capital letter as a small one. -/
def lower (c : Char) : Char := if 'A' ≤ c ∧ c ≤ 'Z' then Char.ofNat (c.toNat + 32) else c

/-- A small letter as a capital one. -/
def upper (c : Char) : Char := if 'a' ≤ c ∧ c ≤ 'z' then Char.ofNat (c.toNat - 32) else c

/-- The value of a hexadecimal digit. -/
def hexDigitValue (c : Char) : Nat := if isDigit c then c.toNat - 48 else (lower c).toNat - 87

/-- The number that digits of a base stand for. -/
def valueOf (base : Nat) (cs : List Char) : Nat :=
  cs.foldl (fun n c => base * n + hexDigitValue c) 0

/-- The number that decimal digits stand for; none when one of the characters is no digit. -/
def decimal? (cs : List Char) : Option Nat := if cs.all isDigit then some (valueOf 10 cs) else none

/-- The number of bytes of some characters. -/
def byteCount (cs : List Char) : Nat := cs.foldl (fun n c => n + c.utf8Size) 0

end TypeCatalog.Ascii
