import Std.Data.HashMap
import TypeCatalog.Pattern.Regex

/-!
# How large a pattern may be

A pattern is matched by an automaton over the bytes of a text in UTF-8, once read forward and once
backward. Neither may need more than ten mebibytes. `Regex.fits` tells whether they do not.

A state takes thirty-two bytes; a transition of a state with several takes eight, and a branch of a
choice four. A set beyond ASCII is an automaton of its own: forward the smallest one, with one state
for all that is followed by the same; backward one that shares what begins alike.
-/

set_option autoImplicit false

namespace TypeCatalog.Pattern

open Text (CharSet)

/-- Bytes from first to last, at each place of a code point in UTF-8. -/
abbrev ByteRanges := List (Nat × Nat)

namespace ByteRanges

/-- The last code point that a number of bytes can hold. -/
def maxCode : Nat → Nat
  | 1 => 0x7F
  | 2 => 0x7FF
  | 3 => 0xFFFF
  | _ => 0x10FFFF

/-- The bytes of a code point. -/
def encode (n : Nat) : List Nat :=
  if n ≤ 0x7F then [n]
  else if n ≤ 0x7FF then [0xC0 + n / 64, 0x80 + n % 64]
  else if n ≤ 0xFFFF then [0xE0 + n / 4096, 0x80 + n / 64 % 64, 0x80 + n % 64]
  else [0xF0 + n / 262144, 0x80 + n / 4096 % 64, 0x80 + n / 64 % 64, 0x80 + n % 64]

/-- Where a range has to be cut, as the first code point behind the cut: at the surrogates, where
the number of bytes grows, and where one byte changes although those after it do not take all
values. -/
def cut? (first last : Nat) : Option Nat :=
  let atLength := [1, 2, 3].filterMap fun k =>
    if first ≤ maxCode k && maxCode k < last then some (maxCode k + 1) else none
  let atByte := [64, 4096, 262144].filterMap fun m =>
    if first / m = last / m then none
    else if first % m ≠ 0 then some ((first / m + 1) * m)
    else if last % m ≠ m - 1 then some (last / m * m)
    else none
  match atLength with
  | n :: _ => some n
  | [] => if last ≤ 0x7F then none else atByte.head?

/-- The byte ranges of the code points from first to last. No range is cut more than a few times on
the way to a piece, which bounds the depth. -/
def ofRange : Nat → Nat → Nat → List ByteRanges
  | 0, _, _ => []
  | fuel + 1, first, last =>
    if last < first then []
    else if first < 0xE000 && 0xD7FF < last then
      ofRange fuel first 0xD7FF ++ ofRange fuel 0xE000 last
    else
      match cut? first last with
      | some n => ofRange fuel first (n - 1) ++ ofRange fuel n last
      | none => [(encode first).zip (encode last)]

/-- The byte ranges of a set, in ascending order. -/
def ofSet (s : CharSet) : List ByteRanges := s.ranges.flatMap fun (a, b) => ofRange 32 a b

end ByteRanges

/-! ## Automata of sets -/

/-- States by what follows: the transitions of each, with its number. -/
abbrev States := Std.HashMap (List (Nat × Nat × Nat)) Nat

/-- The state with some transitions, which is made when there is none. -/
def States.number (transitions : List (Nat × Nat × Nat)) : StateM States Nat := do
  match (← get)[transitions]? with
  | some n => return n
  | none =>
    let n := (← get).size + 1
    modify (·.insert transitions n)
    return n

/-- Sequences by their first byte range; those that share it stand together. -/
def groupByHead : List ByteRanges → List ((Nat × Nat) × List ByteRanges)
  | [] => []
  | [] :: rest => groupByHead rest
  | (r :: tail) :: rest =>
    match groupByHead rest with
    | (q, tails) :: groups =>
      if q = r then (q, tail :: tails) :: groups else (r, [tail]) :: (q, tails) :: groups
    | [] => [(r, [tail])]

/-- The state that reads one of some sequences. The last state, which reads no more, is number zero.
-/
def stateOf : Nat → List ByteRanges → StateM States Nat
  | 0, _ => return 0
  | fuel + 1, seqs => do
    let groups := groupByHead seqs
    if groups.isEmpty then return 0
    let transitions ← groups.mapM fun ((a, b), tails) => return (a, b, ← stateOf fuel tails)
    States.number transitions

/-- The bytes that the forward automaton of a set takes. -/
def forwardSize (s : CharSet) : Nat :=
  match s.single? with
  | some n => 32 * (ByteRanges.encode n).length
  | none =>
    if s.isAscii then 64 + 8 * s.ranges.length
    else
      let states := ((stateOf 5 (ByteRanges.ofSet s)).run {}).2
      states.fold (fun n transitions _ => n + 32 + 8 * transitions.length) 32

/-- The number of different beginnings of some sequences, of which those that begin alike stand
together. -/
def beginnings : ByteRanges → List ByteRanges → Nat
  | _, [] => 0
  | last, seq :: seqs =>
    let shared := ((last.zip seq).takeWhile fun (a, b) => a = b).length
    seq.length - shared + beginnings seq seqs

/-- The bytes that the backward automaton of a set takes. -/
def backwardSize (s : CharSet) : Nat :=
  match s.single? with
  | some n => 32 * (ByteRanges.encode n).length
  | none =>
    if s.isAscii then 64 + 8 * s.ranges.length
    else
      let seqs := ByteRanges.ofSet s
      64 + 4 * seqs.length + 32 * beginnings [] seqs

/-- More bytes than either automaton of a set takes. -/
def roughSize (s : CharSet) : Nat := 128 + 2500 * s.ranges.length

/-! ## Automata of expressions -/

namespace Regex

/-- Whether a match takes at least one character. -/
def takesMore : Regex → Bool
  | empty => false
  | set s => s ≠ .empty
  | anchor _ => false
  | seq r s => r.takesMore || s.takesMore
  | alt r s => r.takesMore && s.takesMore
  | repeated least _ _ r => least ≠ 0 && r.takesMore
  | capture _ r => r.takesMore

/-- The number of branches of an expression. -/
def branchCount : Regex → Nat
  | alt r s => r.branchCount + s.branchCount
  | _ => 1

/-- The bytes of a repetition of what takes `n` bytes. -/
def repeatedSize (n : Nat) (takesMore : Bool) (least : Nat) (most : Option Nat) : Nat :=
  match least, most with
  | 0, some 1 => n + 72
  | 0, none => if takesMore then n + 40 else n + 112
  | k, none => k * n + 40
  | k, some m => (if k = 0 then 32 else k * n) + if m ≤ k then 0 else 32 + (m - k) * (n + 40)

/-- The bytes of the text that an expression matches when it matches just one. -/
def literal? : Regex → Option (List Nat)
  | set s => s.single?.map ByteRanges.encode
  | seq r s => do return (← r.literal?) ++ (← s.literal?)
  | _ => none

/-- The bytes of the states that read some words from a tree of their beginnings: two states where
words go on, one of them with a branch where a word ends as well. -/
def wordTreeSize : Nat → List (List Nat) → Nat
  | 0, _ => 0
  | fuel + 1, words =>
    let heads := (words.filterMap List.head?).eraseDups
    if heads.isEmpty then 0
    else
      let tails (b : Nat) : List (List Nat) :=
        words.filterMap fun w => if w.head? = some b then some w.tail else none
      68 + (if heads.length = 1 then 0 else 8 * heads.length)
        + (if words.contains [] then 4 else 0)
        + (heads.map fun b => wordTreeSize fuel (tails b)).sum

/-- The bytes of a choice among texts. -/
def wordsSize (backward : Bool) (words : List (List Nat)) : Nat :=
  let words := if backward then words.map List.reverse else words
  32 + wordTreeSize ((words.map List.length).foldl max 0 + 1) words

/-- The bytes of the automaton of an expression, where sets take what `ofSet` says. Only forward
does a group take states for itself. A choice takes its own states where it begins, that is where it
is no branch of another one. -/
def size (backward : Bool) (ofSet : CharSet → Nat) (isBranch : Bool) : Regex → Nat
  | empty => 32
  | set s => ofSet s
  | anchor _ => 32
  | seq r s => r.size backward ofSet false + s.size backward ofSet false
  | alt r s =>
    let rest := r.size backward ofSet true + s.size backward ofSet true
    if isBranch then rest
    else
      match (r.branches ++ s.branches).mapM literal? with
      | some words => wordsSize backward words
      | none => 64 + 4 * (r.branchCount + s.branchCount) + rest
  | repeated least most _ r => repeatedSize (r.size backward ofSet false) r.takesMore least most
  | capture _ r => (if backward then 0 else 64) + r.size backward ofSet false

/-- The bytes that an automaton may take. -/
def sizeLimit : Nat := 10485760

/-- Whether the automata of an expression are small enough. What they take around the expression, to
begin anywhere and to end, is counted too. -/
def fits (r : Regex) : Bool :=
  r.size false roughSize false + 208 ≤ sizeLimit
    || (r.size false forwardSize false + 208 ≤ sizeLimit
      && r.size true backwardSize false + 144 ≤ sizeLimit)

end Regex

end TypeCatalog.Pattern
