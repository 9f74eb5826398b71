import TypeCatalog.Json.Basic
import TypeCatalog.Text.Ascii

/-!
# Pointers

A pointer leads to a place in a value: a slash before each name or index, where `~0` stands for a
tilde and `~1` for a slash. A relative one says first how many levels it goes up. `Pointer.find?`
goes where a pointer leads.
-/

set_option autoImplicit false

namespace TypeCatalog.Pointer

/-- Whether every tilde is followed by `0` or `1`. -/
def hasEscapes : List Char → Bool
  | [] => true
  | '~' :: c :: cs => (c == '0' || c == '1') && hasEscapes cs
  | c :: cs => c != '~' && hasEscapes cs

def isPointer (cs : List Char) : Bool :=
  match cs with
  | [] => true
  | c :: _ => c == '/' && hasEscapes cs

def isRelativePointer (cs : List Char) : Bool :=
  let (digits, rest) := cs.span Ascii.isDigit
  !digits.isEmpty && (digits.head? != some '0' || digits.length == 1)
    && (rest == ['#'] || isPointer rest)

/-- A segment of a pointer without its escapes. -/
def unescaped : List Char → List Char
  | '~' :: '1' :: cs => '/' :: unescaped cs
  | '~' :: '0' :: cs => '~' :: unescaped cs
  | c :: cs => c :: unescaped cs
  | [] => []

/-- The index that a segment stands for, if it fits a word of 64 bits. A plus sign may stand in
front of it. -/
def index? (segment : List Char) : Option Nat :=
  let digits := if segment.head? = some '+' then segment.tail else segment
  if digits.isEmpty then none
  else (Ascii.decimal? digits).filter fun n => Number.fitsNat64 n

/-- The part of a value that a segment leads to. Here an index has neither a sign nor needless
zeros. -/
def step? (v : Json) (segment : List Char) : Option Json :=
  match v with
  | .object ms => ms.lookup (String.ofList (unescaped segment))
  | .array xs =>
    if segment.head? = some '+' || (segment.head? = some '0' && segment.length ≠ 1) then none
    else (index? segment).bind fun i => xs[i]?
  | _ => none

/-- The part of a value that a pointer leads to. -/
def find? (v : Json) (pointer : List Char) : Option Json :=
  match pointer with
  | [] => some v
  | c :: cs => if c = '/' then (cs.splitOn '/').foldlM step? v else none

end TypeCatalog.Pointer
