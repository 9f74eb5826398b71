import TypeCatalog.Text.Ascii

/-!
# Addresses of eight groups

An `Address6` is an address of IP version 6: eight groups of sixteen bits. `Address6.read` reads one
from the front of a text, where a double colon stands for groups of zeros and the last two groups
may be written as four octets. It also tells how far it came. `Address6.chars` writes an address in
its shortest form.
-/

set_option autoImplicit false

namespace TypeCatalog

/-- The eight groups of an address. -/
abbrev Address6 := List Nat

namespace Address6

/-! ## Reading -/

/-- A piece of an address, with a note whether a colon stands in front of it. -/
inductive Piece where
  | group (n : Nat) (behindColon : Bool)
  /-- The double colon. -/
  | gap
  /-- What follows begins as octets do. -/
  | octets (behindColon : Bool)
  /-- A colon with nothing behind it that belongs to an address. -/
  | colon

/-- The piece at the front of a text, and what follows. At the end of the text nothing is a piece,
since a bracket has to close the address. -/
def piece (cs : List Char) : Option Piece × List Char :=
  let behindColon := cs.head? = some ':'
  let cs := if behindColon then cs.tail else cs
  let digits := (cs.take 4).takeWhile Ascii.isHexDigit
  let rest := cs.drop digits.length
  if digits.isEmpty then
    if !behindColon || cs.isEmpty then (none, cs)
    else if cs.head? = some ':' then (some .gap, cs.tail)
    else (some .colon, cs)
  else if digits.length < 4 && rest.isEmpty then (none, rest)
  else if digits.length < 4 && rest.head? = some '.' then (some (.octets behindColon), cs)
  else (some (.group (Ascii.valueOf 16 digits) behindColon), rest)

/-- A number below 256 without needless zeros, and what follows. -/
def octet (cs : List Char) : Option Nat × List Char :=
  let digits := if cs.head? = some '0' then ['0'] else (cs.take 3).takeWhile Ascii.isDigit
  let n := Ascii.valueOf 10 digits
  (if digits.isEmpty || 255 < n then none else some n, cs.drop digits.length)

/-- Some octets with dots between them, and what follows. -/
def octets : Nat → List Char → Option (List Nat) × List Char
  | 0, cs => (some [], cs)
  | n + 1, cs =>
    match octet cs with
    | (none, rest) => (none, rest)
    | (some v, rest) =>
      if n = 0 then (some [v], rest)
      else if rest.head? = some '.' then
        let (vs, rest) := octets n rest.tail
        (vs.map (v :: ·), rest)
      else (none, rest)

/-- Reads pieces behind some groups, of which the gap, if there was one, stands behind a few. There
are eight groups and one gap at most, and so nine pieces. -/
def pieces : Nat → List Nat → Option Nat → List Char →
    Option (List Nat × Option Nat) × List Char
  | 0, groups, gap, cs => (some (groups, gap), cs)
  | rounds + 1, groups, gap, cs =>
    let atGap := gap = some groups.length
    if 8 ≤ groups.length then (some (groups, gap), cs)
    else
      match piece cs with
      | (none, rest) => (some (groups, gap), rest)
      | (some .colon, rest) => (none, rest)
      | (some .gap, rest) =>
        if gap.isSome then (none, rest) else pieces rounds groups (some groups.length) rest
      | (some (.group n behindColon), rest) =>
        if behindColon = (groups.isEmpty || atGap) then (none, rest)
        else pieces rounds (groups ++ [n]) gap rest
      | (some (.octets behindColon), rest) =>
        if 6 < groups.length || behindColon = atGap then (none, rest)
        else
          match octets 4 rest with
          | (some [a, b, c, d], rest) =>
            (some (groups ++ [256 * a + b, 256 * c + d], gap), rest)
          | (_, rest) => (none, rest)

/-- Groups with zeros in the gap. A gap stands for one group at least. -/
def filled (groups : List Nat) : Option Nat → Option Address6
  | none => if groups.length = 8 then some groups else none
  | some i =>
    if 8 ≤ groups.length then none
    else some (groups.take i ++ List.replicate (8 - groups.length) 0 ++ groups.drop i)

/-- The address at the front of a text, and what follows what was read. -/
def read (cs : List Char) : Option Address6 × List Char :=
  let (found, rest) := pieces 10 [] none cs
  (found.bind fun (groups, gap) => filled groups gap, rest)

/-! ## Writing -/

/-- The number of zeros at the front. -/
def zerosAt (groups : List Nat) : Nat := (groups.takeWhile (· = 0)).length

/-- The place and the length of the longest run of zeros, the first one of that length. -/
def longestGap (a : Address6) : Nat × Nat :=
  (List.range a.length).foldl
    (fun best i => if best.2 < zerosAt (a.drop i) then (i, zerosAt (a.drop i)) else best) (0, 0)

/-- Groups with colons between them. -/
def groupChars (groups : List Nat) : List Char :=
  [':'].intercalate (groups.map (Nat.toDigits 16))

/-- The text of an address. An address of four octets inside one of eight groups is written in
octets, and else the longest run of zeros as a double colon. -/
def chars (a : Address6) : List Char :=
  match a with
  | [0, 0, 0, 0, 0, 0xFFFF, m, n] =>
    "::ffff:".toList
      ++ ['.'].intercalate ([m / 256, m % 256, n / 256, n % 256].map (Nat.toDigits 10))
  | _ =>
    let (i, k) := longestGap a
    if k < 2 then groupChars a
    else groupChars (a.take i) ++ [':', ':'] ++ groupChars (a.drop (i + k))

end Address6

end TypeCatalog
