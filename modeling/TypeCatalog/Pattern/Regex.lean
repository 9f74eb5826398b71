import TypeCatalog.Pattern.NamedSet

/-!
# Regular expressions and where they match

`Regex.reach` gives the places that a match can end at, for matches that start at some places. A
list of places holds each at most once, so it is never longer than the text, and repetition ends
when no new place is reached. `Regex.search` tells whether there is a match anywhere.

How much a repetition prefers has no part in this; it decides which of several matches is taken, and
that is told in the theory of preferred matches.
-/

set_option autoImplicit false

namespace TypeCatalog.Pattern

open Text (CharSet)

/-- An edge of a word. -/
inductive WordEdge where
  | boundary
  | notBoundary
  | start
  | stop
  | startHalf
  | stopHalf
deriving DecidableEq, Inhabited

/-- A condition on a place. -/
inductive Anchor where
  | textStart
  | textEnd
  /-- The start of a line; a carriage return may end lines, too. -/
  | lineStart (returns : Bool)
  | lineEnd (returns : Bool)
  /-- An edge of a word in ASCII or in Unicode. -/
  | word (ascii : Bool) (edge : WordEdge)
deriving DecidableEq, Inhabited

/-- Whether a place between two characters meets a condition; none stands for an end of the text. -/
def Anchor.holds (a : Anchor) (before after : Option Char) : Bool :=
  match a with
  | textStart => before.isNone
  | textEnd => after.isNone
  | lineStart returns =>
    before.all (· = '\n') || (returns && before = some '\r' && after ≠ some '\n')
  | lineEnd returns =>
    if returns then after.all (· = '\r') || (after = some '\n' && before ≠ some '\r')
    else after.all (· = '\n')
  | word ascii edge =>
    let set := if ascii then LetterClass.word.asciiSet else wordSet
    let inBefore := before.any set.contains
    let inAfter := after.any set.contains
    match edge with
    | .boundary => inBefore != inAfter
    | .notBoundary => inBefore == inAfter
    | .start => !inBefore && inAfter
    | .stop => inBefore && !inAfter
    | .startHalf => !inBefore
    | .stopHalf => !inAfter

/-- A text to match in. A place is the number of characters before it. -/
abbrev Subject := Array Char

namespace Subject

/-- Whether a place meets a condition. -/
def meets (text : Subject) (a : Anchor) (place : Nat) : Bool :=
  a.holds (if place = 0 then none else text[place - 1]?) text[place]?

/-- The place behind the next character when that is in a set. -/
def advance? (text : Subject) (s : CharSet) (place : Nat) : Option Nat :=
  match text[place]? with
  | some c => if s.contains c then some (place + 1) else none
  | none => none

/-- Every place of a text. -/
def places (text : Subject) : List Nat := List.range (text.size + 1)

end Subject

/-- A regular expression. -/
inductive Regex where
  /-- The empty text. -/
  | empty
  /-- One character of a set. -/
  | set (s : CharSet)
  | anchor (a : Anchor)
  | seq (r s : Regex)
  | alt (r s : Regex)
  /-- At least `least` times, and at most `most` times where there is a bound; many times rather
  than few where it is greedy. -/
  | repeated (least : Nat) (most : Option Nat) (greedy : Bool) (r : Regex)
  /-- A group whose match is remembered under a number. -/
  | capture (group : Nat) (r : Regex)
deriving DecidableEq, Inhabited

namespace Regex

/-! ## Construction -/

/-- One expression after the other; the empty one adds nothing. -/
def seqAll (rs : List Regex) : Regex :=
  match rs.filter (· ≠ empty) with
  | [] => empty
  | r :: rs => (r :: rs).dropLast.foldr seq ((r :: rs).getLastD r)

/-- The branches of an expression. -/
def branches : Regex → List Regex
  | alt r s => r.branches ++ s.branches
  | r => [r]

/-- The set of an expression that is one. -/
def set? : Regex → Option CharSet
  | set s => some s
  | _ => none

/-- One of the expressions. Branches that are all single characters, or all sets of several, make
one set together. -/
def altAll (rs : List Regex) : Regex :=
  match rs.flatMap branches with
  | [] => set .empty
  | [r] => r
  | r :: rs =>
    let all := r :: rs
    let sets := all.filterMap set?
    let singles := sets.filter fun s => s.single?.isSome
    if sets.length = all.length && (singles.isEmpty || singles.length = all.length) then
      set (.unionAll sets)
    else all.dropLast.foldr alt (all.getLastD r)

/-- Whether an expression matches the empty text only, if any. -/
def isVoid : Regex → Bool
  | empty => true
  | set _ => false
  | anchor _ => true
  | seq r s => r.isVoid && s.isVoid
  | alt r s => r.isVoid && s.isVoid
  | repeated _ most _ r => most = some 0 || r.isVoid
  | capture _ r => r.isVoid

/-- A repetition. What matches the empty text only is not repeated more than once. -/
def repetition (least : Nat) (most : Option Nat) (greedy : Bool) (r : Regex) : Regex :=
  let (least, most) :=
    if r.isVoid then (min least 1, some ((most.map (min 1)).getD 1)) else (least, most)
  if most = some 0 then empty
  else if least = 1 && most = some 1 then r
  else repeated least most greedy r

/-- The groups of an expression. -/
def groups : Regex → List Nat
  | seq r s => r.groups ++ s.groups
  | alt r s => r.groups ++ s.groups
  | repeated _ _ _ r => r.groups
  | capture i r => i :: r.groups
  | _ => []

/-! ## Matching -/

/-- The places that are not among those seen, each once, and all that are seen then. A set of places
is given by the binary digits of a number. -/
def fresh (seen : Nat) : List Nat → List Nat × Nat
  | [] => ([], seen)
  | p :: ps =>
    if seen.testBit p then fresh seen ps
    else
      let (qs, all) := fresh (seen ||| (1 <<< p)) ps
      (p :: qs, all)

/-- A step taken a number of times. -/
def times (step : List Nat → List Nat) : Nat → List Nat → List Nat
  | 0, ps => ps
  | n + 1, ps => if ps.isEmpty then [] else times step n (step ps)

/-- The places reached by at most a number of steps. `seen` holds those so far, and `edge` the ones
among them that were new in the last step. -/
def spread (step : List Nat → List Nat) : Nat → Nat → List Nat → List Nat
  | 0, _, edge => edge
  | n + 1, seen, edge =>
    let (new, all) := fresh seen (step edge)
    if new.isEmpty then edge else edge ++ spread step n all new

/-- The places where a match can end that starts at one of the given places. -/
def reach (text : Subject) : Regex → List Nat → List Nat
  | empty, ps => ps
  | set s, ps => ps.filterMap (text.advance? s)
  | anchor a, ps => ps.filter (text.meets a)
  | seq r s, ps => s.reach text (r.reach text ps)
  | alt r s, ps => (fresh 0 (r.reach text ps ++ s.reach text ps)).1
  | repeated least most _ r, ps =>
    let (first, seen) := fresh 0 (times (fun qs => r.reach text qs) least ps)
    spread (fun qs => r.reach text qs) ((most.map (· - least)).getD (text.size + 1)) seen first
  | capture _ r, ps => r.reach text ps

/-- Whether there is a match anywhere in a text. -/
def search (r : Regex) (s : String) : Bool :=
  let text : Subject := s.toList.toArray
  !(r.reach text text.places).isEmpty

end Regex

end TypeCatalog.Pattern
