import TypeCatalog.Text.Ranges

/-!
# Sets of code points

A set is a list of ranges in ascending order with a gap between any two, so that two sets of the
same code points are equal. `CharSet.contains` decides membership; union, complement and what is
made of them keep the order and the gaps.
-/

set_option autoImplicit false

namespace TypeCatalog.Text

/-- A set of code points, as ranges from first to last. -/
structure CharSet where
  ranges : List (Nat × Nat)
deriving DecidableEq, Inhabited

namespace CharSet

/-- The last code point. -/
def maxCode : Nat := 0x10FFFF

/-- No code point. -/
def empty : CharSet := ⟨[]⟩

/-- All code points. -/
def all : CharSet := ⟨[(0, maxCode)]⟩

/-- The code points from the first to the last. -/
def range (first last : Nat) : CharSet := ⟨[(first, last)]⟩

/-- A single character. -/
def char (c : Char) : CharSet := range c.toNat c.toNat

/-- Whether a code point is in one of some ranges, which ascend. -/
def holds (n : Nat) : List (Nat × Nat) → Bool
  | [] => false
  | (first, last) :: rs => first ≤ n && (n ≤ last || holds n rs)

/-- Whether a code point is in the set. -/
def containsCode (s : CharSet) (n : Nat) : Bool := holds n s.ranges

/-- Whether a character is in the set. -/
def contains (s : CharSet) (c : Char) : Bool := s.containsCode c.toNat

/-- Ranges whose first code points ascend, with those joined that overlap or touch. The range from
`first` to `last` goes before them. -/
def joinFrom (first last : Nat) : List (Nat × Nat) → List (Nat × Nat)
  | [] => [(first, last)]
  | (a, b) :: rs =>
    if a ≤ last + 1 then joinFrom first (max last b) rs else (first, last) :: joinFrom a b rs

/-- The set of ranges whose first code points ascend. -/
def ofAscending : List (Nat × Nat) → CharSet
  | [] => empty
  | (a, b) :: rs => ⟨joinFrom a b rs⟩

/-- The set of ranges in any order. -/
def ofRanges (rs : List (Nat × Nat)) : CharSet :=
  ofAscending (rs.mergeSort fun r q => r.1 ≤ q.1)

/-- The code points of a table. -/
def parse (table : String) : CharSet :=
  ofRanges <| (Range.parseList table).flatMap fun r =>
    if r.step = 1 then [(r.first, r.last)]
    else (List.range ((r.last - r.first) / r.step + 1)).map fun i =>
      (r.first + i * r.step, r.first + i * r.step)

/-- The code points of either set. -/
def union (s t : CharSet) : CharSet :=
  ofAscending (s.ranges.merge t.ranges fun r q => r.1 ≤ q.1)

/-- The code points of some sets. -/
def unionAll (ss : List CharSet) : CharSet := ofRanges (ss.flatMap ranges)

/-- What lies between ranges, from a code point on. -/
def gaps (start : Nat) : List (Nat × Nat) → List (Nat × Nat)
  | [] => if start ≤ maxCode then [(start, maxCode)] else []
  | (first, last) :: rs =>
    if start < first then (start, first - 1) :: gaps (last + 1) rs else gaps (last + 1) rs

/-- The code points that are not in the set. -/
def complement (s : CharSet) : CharSet := ⟨gaps 0 s.ranges⟩

/-- The code points of both sets. -/
def inter (s t : CharSet) : CharSet := complement (s.complement.union t.complement)

/-- The code points of the first set that are not in the second. -/
def diff (s t : CharSet) : CharSet := s.inter t.complement

/-- The code points that are in just one of the sets. -/
def symmDiff (s t : CharSet) : CharSet := (s.diff t).union (t.diff s)

/-- The set or its complement. -/
def complementIf (negated : Bool) (s : CharSet) : CharSet := if negated then s.complement else s

/-- Whether all code points of the set are in ASCII. -/
def isAscii (s : CharSet) : Bool := s.ranges.all (·.2 < 0x80)

/-- The character of a set of one. -/
def single? (s : CharSet) : Option Nat :=
  match s.ranges with
  | [(a, b)] => if a = b then some a else none
  | _ => none

end CharSet

end TypeCatalog.Text
