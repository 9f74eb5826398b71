import TypeCatalog.Pattern.Strict
import TypeCatalog.Pattern.Wide

/-!
# Reading patterns of the wide dialect

`Wide.parse?` reads a pattern of the wide dialect; there is no account of what is wrong with a text
that is none. A class, a property and the like are written down in the strict dialect and read as
such.

Flags that are set in a group hold beyond its end, unless the group itself was opened with flags. A
brace that opens no count stands for itself.
-/

set_option autoImplicit false

namespace TypeCatalog.Pattern.Wide

namespace Reader

/-- What the reader has come to. -/
structure State where
  rest : List Char
  ignoreCase : Bool
  multiLine : Bool
  dotAll : Bool
  swapGreed : Bool
  verbose : Bool
  /-- The names of groups; the last given stands first. -/
  names : List (String × Nat)
  /-- How many groups have been opened. -/
  groups : Nat
  /-- Whether a group has been referred to by number. -/
  numbered : Bool
  /-- Groups that an escape refers to. -/
  referred : List Nat
deriving Inhabited

abbrev R := StateT State Option

def failure {α : Type} : R α := fun _ => none

def peek? : R (Option Char) := return (← get).rest.head?

def drop (n : Nat) : R Unit := modify fun s => { s with rest := s.rest.drop n }

/-- Reads a text when it comes next. -/
def readIf (text : String) : R Bool := do
  if text.toList.isPrefixOf (← get).rest then
    drop text.length
    return true
  return false

/-- Reads a character that has to come next. -/
def expect (c : Char) : R Unit := do
  if (← peek?) = some c then drop 1 else failure

/-! ## What is passed over -/

/-- What is left after the sign that closes a comment. A backslash hides the character after it. -/
def afterComment? : List Char → Option (List Char)
  | [] => none
  | ')' :: cs => some cs
  | '\\' :: _ :: cs => afterComment? cs
  | _ :: cs => afterComment? cs

/-- What is left after comments and, where the pattern is verbose, blanks. -/
def skipped? (verbose : Bool) : Nat → List Char → Option (List Char)
  | 0, cs => some cs
  | fuel + 1, cs =>
    match cs with
    | '(' :: '?' :: '#' :: cs => do skipped? verbose fuel (← afterComment? cs)
    | c :: cs' =>
      if !verbose then some cs
      else if c = '#' then
        skipped? verbose fuel ((cs'.dropWhile (· ≠ '\n')).drop 1)
      else if [' ', '\r', '\n', '\t'].contains c then skipped? verbose fuel cs'
      else some cs
    | [] => some []

def skip : R Unit := fun s => do
  let rest ← skipped? s.verbose s.rest.length s.rest
  return ((), { s with rest })

/-! ## Numbers and names -/

/-- A number of decimal digits, as far as it fits sixty-four bits, and what is left. -/
def decimal? (cs : List Char) : Option (Nat × List Char) :=
  let (digits, rest) := cs.span Parser.isDecimal
  let n := digits.foldl (fun n c => n * 10 + (c.toNat - 48)) 0
  if digits.isEmpty || 0x10000000000000000 ≤ n then none else some (n, rest)

/-- Whether a character may stand in a name. -/
def isNameChar (c : Char) : Bool :=
  c = '_' || Text.Trait.alphabetic.contains c
    || (Text.Category.sets [.decimalNumber, .letterNumber, .otherNumber]).contains c

/-- A name between two signs. -/
def name (opening closing : String) : R String := do
  if !(← readIf opening) then failure
  let (cs, rest) := (← get).rest.span isNameChar
  modify fun s => { s with rest }
  if cs.isEmpty || !(← readIf closing) then failure
  return String.ofList cs

/-- A reference to a group that has been opened. -/
def reference (group : Nat) : R Nat := do
  if group ≤ (← get).groups then return group
  failure

/-- A reference by number, which may not be out of all proportion to the pattern. -/
def numberedReference (size : Nat) : R Nat := fun s => do
  let (n, rest) ← decimal? s.rest
  guard (n < size / 2)
  (reference n).run { s with rest, numbered := true }

/-- The group that a name or a number stands for. -/
def resolve (id : String) : R Nat := do
  match (← get).names.lookup id, decimal? id.toList with
  | some g, _ => reference g
  | none, some (n, []) => reference n
  | none, _ => failure

/-- A reference between two signs: by name, by number, or by the distance back from here. -/
def namedReference (opening closing : String) (relative : Bool) : R Nat := do
  let start := (← get).rest
  if relative && (opening ++ "-").toList.isPrefixOf start then
    drop (opening.length + 1)
    match decimal? (← get).rest with
    | some (n, rest) =>
      modify fun s => { s with rest }
      expect (closing.front)
      if (← get).groups + 1 < n || n = 0 then failure
      reference ((← get).groups + 1 - n)
    | none => failure
  else resolve (← name opening closing)

/-! ## Escapes -/

/-- What an escape stands for. -/
inductive Atom where
  | char (c : Char)
  /-- A class, as it is written in the strict dialect. -/
  | strict (text : String) (ignoreCase : Bool)
  | reference (group : Nat)
  | other (e : Wide)
deriving Inhabited

/-- A code point in a number of hexadecimal digits, or in up to eight in braces. -/
def hex (count : Nat) : R Char := do
  let rest := (← get).rest
  let fixed := rest.take count
  let digits ←
    if fixed.length = count && fixed.all fun c => (Parser.hexDigit? c).isSome then do
      drop count
      pure fixed
    else do
      expect '\x7b'
      let (digits, _) := (← get).rest.span fun c => (Parser.hexDigit? c).isSome
      if digits.isEmpty || 8 < digits.length then failure
      drop digits.length
      expect '\x7d'
      pure digits
  let value := digits.foldl (fun n c => n * 16 + (Parser.hexDigit? c).getD 0) 0
  match Parser.scalar? value with
  | some c => return c
  | none => failure

/-- A property, whose letter has been read, as it is written. -/
def property (letter : Char) : R Atom := do
  let s ← get
  let body ← match s.rest with
    | [] => return .char letter
    | '\x7b' :: cs =>
      match cs.span (· ≠ '\x7d') with
      | (inner, _ :: _) => pure ('\x7b' :: inner ++ ['\x7d'])
      | (_, []) => failure
    | c :: _ => pure [c]
  drop body.length
  return .strict (String.ofList ('\\' :: letter :: body)) s.ignoreCase

/-- Letters that stand for a character which is hard to write. -/
def controls : List (Char × Nat) :=
  [('a', 7), ('b', 8), ('f', 12), ('n', 10), ('r', 13), ('t', 9), ('v', 11), ('e', 27)]

/-- Letters that mean something outside of brackets and stand for themselves inside. -/
def outsideLetters : List Char := ['k', 'A', 'z', 'B', 'K', 'G']

/-- An escape that is read alike inside brackets and outside. -/
def commonEscape (c : Char) : R Atom := do
  let ignoreCase := (← get).ignoreCase
  match c with
  | 'x' => return .char (← hex 2)
  | 'u' => return .char (← hex 4)
  | 'U' => return .char (← hex 8)
  | 'h' => return .strict "[0-9A-Fa-f]" false
  | 'H' => return .strict "[^0-9A-Fa-f]" false
  | _ =>
    if (Parser.letterClass? c).isSome then
      return .strict (String.ofList ['\\', c]) ignoreCase
    else if (c = 'p' || c = 'P') && !(← get).rest.isEmpty then property c
    else
      match controls.lookup c with
      | some n => return .char (Char.ofNat n)
      | none => if c.isAlpha && !outsideLetters.contains c then failure else return .char c

/-- An escape; the backslash has been read. `size` is the number of bytes of the pattern. -/
def escape (size : Nat) (inClass : Bool) : R Atom := do
  match ← peek? with
  | none => failure
  | some c =>
    if Parser.isDecimal c then return .reference (← numberedReference size)
    drop 1
    let next ← peek?
    match inClass, c with
    | false, 'k' =>
      if next = some '\'' then return .reference (← namedReference "'" "'" true)
      return .reference (← namedReference "<" ">" true)
    | false, 'A' => return .other (.anchor .textStart)
    | false, 'z' => return .other (.anchor .textEnd)
    | false, 'b' =>
      if next = some '\x7b' then failure
      return .other (.anchor (.word false .boundary))
    | false, 'B' =>
      if next = some '\x7b' then failure
      return .other (.anchor (.word false .notBoundary))
    | false, '<' => return .other (.anchor (.word false .start))
    | false, '>' => return .other (.anchor (.word false .stop))
    | false, 'K' => return .other .keepOut
    | false, 'G' => return .other .searchStart
    | _, _ => commonEscape c

/-- What a text of the strict dialect matches. -/
def strict (text : String) (ignoreCase : Bool) : R Wide := do
  match Strict.regex { Flags.none with ignoreCase } text with
  | .ok r => return .plain r
  | .error _ => failure

/-- A character, in either case where case is of no account. -/
def character (ignoreCase : Bool) (c : Char) : Wide :=
  .plain (.set ({ Flags.none with ignoreCase }.fold (.char c)))

/-! ## Classes -/

/-- The text of a class up to the bracket that closes it, in reverse. `depth` counts the brackets
that are open. -/
def classText (size : Nat) : Nat → Nat → List Char → R (List Char)
  | 0, _, _ => failure
  | fuel + 1, depth, read => do
    match ← peek? with
    | none => failure
    | some '\\' =>
      drop 1
      match ← escape size true with
      | .char c =>
        classText size fuel depth (if Parser.isMeta c then c :: '\\' :: read else c :: read)
      | .strict text _ => classText size fuel depth (text.toList.reverse ++ read)
      | _ => failure
    | some c =>
      drop 1
      if c = '[' then classText size fuel (depth + 1) (c :: read)
      else if c = ']' then
        if depth = 1 then return c :: read else classText size fuel (depth - 1) (c :: read)
      else classText size fuel depth (c :: read)

/-- A class, whose bracket has been read. -/
def bracket (size : Nat) : R Wide := do
  let ignoreCase := (← get).ignoreCase
  let mut opening := ['[']
  if ← readIf "^" then opening := '^' :: opening
  if ← readIf "]" then opening := ']' :: opening
  let text ← classText size ((← get).rest.length + 1) 1 opening
  strict (String.ofList text.reverse) ignoreCase

/-! ## Repetition -/

/-- The counts in braces and what is left after them; none where braces are no counts. -/
def counts? (verbose : Bool) (cs : List Char) : Option (Nat × Option Nat × List Char) := do
  let skip (cs : List Char) : Option (List Char) := skipped? verbose cs.length cs
  let cs ← skip (cs.drop 1)
  let (least, cs) ← if cs.head? = some ',' then some (0, cs) else decimal? cs
  let cs ← skip cs
  let (most, cs) ← match cs with
    | '\x7d' :: _ => some (some least, cs)
    | ',' :: cs => do
      let cs ← skip cs
      match decimal? cs with
      | some (n, cs) => some (some n, cs)
      | none => some (none, cs)
    | _ => none
  match ← skip cs with
  | '\x7d' :: cs => some (least, most, cs)
  | _ => none

/-- The counts of a sign of repetition and what is left after it. -/
def repetition? (verbose : Bool) (cs : List Char) : Option (Nat × Option Nat × List Char) :=
  match cs with
  | '?' :: cs => some (0, some 1, cs)
  | '*' :: cs => some (0, none, cs)
  | '+' :: cs => some (1, none, cs)
  | '\x7b' :: _ => counts? verbose cs
  | _ => none

/-- An item with the repetition that may follow it. -/
def repeatable (e : Wide) : R Wide := do
  skip
  let s ← get
  match repetition? s.verbose s.rest with
  | none => return e
  | some (least, most, rest) =>
    if !e.isRepeatable then failure
    modify fun s => { s with rest }
    skip
    let few ← readIf "?"
    let repeated : Wide := .repeated least most (few == s.swapGreed) e
    if ← readIf "+" then return .atomic repeated
    return repeated

/-! ## Groups -/

/-- How many groups may be open at once. -/
def maxDepth : Nat := 63

/-- Reads the letters of flags up to the sign that ends them, which is given back. `count` is the
number of letters read. -/
def flags : Nat → Bool → Nat → R Char
  | 0, _, _ => failure
  | fuel + 1, negated, count => do
    skip
    match ← peek? with
    | none => failure
    | some c =>
      drop 1
      match c with
      | 'i' => modify fun s => { s with ignoreCase := !negated }
      | 'm' => modify fun s => { s with multiLine := !negated }
      | 's' => modify fun s => { s with dotAll := !negated }
      | 'U' => modify fun s => { s with swapGreed := !negated }
      | 'x' => modify fun s => { s with verbose := !negated }
      | 'u' => if negated then failure
      | '-' => if negated then failure
      | ')' =>
        if count = 0 || (negated && count = 1) then failure
        return c
      | ':' =>
        if negated && count = 1 then failure
        return c
      | _ => failure
      flags fuel (negated || c = '-') (count + 1)

/-- What the opening of a group says. -/
inductive Opening where
  | look (behind negated : Bool)
  | group (number : Nat)
  | atomic
  | reference (group : Nat)
  | conditional
  /-- Flags are to be read. -/
  | flags
deriving Inhabited

/-- A new group. -/
def newGroup : R Nat := do
  modify fun s => { s with groups := s.groups + 1 }
  return (← get).groups

/-- A new group with a name. -/
def named (opening closing : String) : R Opening := do
  let number ← newGroup
  let id ← name opening closing
  modify fun s => { s with names := (id, number) :: s.names }
  return .group number

/-- The opening of a group, whose parenthesis has been read. -/
def opening : R Opening := do
  skip
  if ← readIf "?=" then return .look false false
  if ← readIf "?!" then return .look false true
  if ← readIf "?<=" then return .look true false
  if ← readIf "?<!" then return .look true true
  if "?<".toList.isPrefixOf (← get).rest then
    drop 1
    return ← named "<" ">"
  if "?'".toList.isPrefixOf (← get).rest then
    drop 1
    return ← named "'" "'"
  if "?P<".toList.isPrefixOf (← get).rest then
    drop 2
    return ← named "<" ">"
  if ← readIf "?P=" then return .reference (← namedReference "" ")" false)
  if ← readIf "?>" then return .atomic
  if ← readIf "?(" then return .conditional
  if ← readIf "?" then return .flags
  return .group (← newGroup)

/-- The end of a group. -/
def close : R Unit := do
  skip
  expect ')'

/-- A pattern of a condition and of what holds when it is met. -/
def condition (test body : Wide) : Wide :=
  let (yes, no) : Wide × Wide := match body with
    | .alt [e] => (e, .empty)
    | .alt [e, f] => (e, f)
    | .alt (e :: es) => (e, .alt es)
    | e => (e, .empty)
  if yes.isEmpty && no.isEmpty then test else .conditional test yes no

/-! ## Expressions -/

mutual

/-- Branches up to the end of a group or of the text. `depth` counts the groups around. -/
def expression (size : Nat) : Nat → Nat → R Wide
  | 0, _ => failure
  | fuel + 1, depth => do
    let first ← branch size fuel depth []
    skip
    if (← peek?) = some '|' then
      return .alt (first :: (← branches size fuel depth))
    let s ← get
    if s.numbered && !s.names.isEmpty then failure
    return first

/-- The branches that follow signs. -/
def branches (size : Nat) : Nat → Nat → R (List Wide)
  | 0, _ => failure
  | fuel + 1, depth => do
    if ← readIf "|" then
      let e ← branch size fuel depth []
      skip
      return e :: (← branches size fuel depth)
    return []

/-- Items up to one that reads nothing. Those read so far stand in reverse. -/
def branch (size : Nat) : Nat → Nat → List Wide → R Wide
  | 0, _, _ => failure
  | fuel + 1, depth, read => do
    let before := (← get).rest.length
    let finished : Wide := match read with
      | [] => .empty
      | [e] => e
      | es => .concat es.reverse
    if before = 0 then return finished
    let e ← repeatable (← atom size fuel depth)
    if (← get).rest.length = before then return finished
    branch size fuel depth (if e.isEmpty then read else e :: read)

/-- A single item. -/
def atom (size : Nat) : Nat → Nat → R Wide
  | 0, _ => failure
  | fuel + 1, depth => do
    skip
    let s ← get
    match s.rest with
    | [] => return .empty
    | c :: _ =>
      if ['+', '*', '?', '|', ')'].contains c then return .empty
      drop 1
      match c with
      | '.' => return .plain (.set (if s.dotAll then .all else .complement (.char '\n')))
      | '^' => return .anchor (if s.multiLine then .lineStart false else .textStart)
      | '$' => return .anchor (if s.multiLine then .lineEnd false else .textEnd)
      | '(' => group size fuel (depth + 1)
      | '[' => bracket size
      | '\\' =>
        match ← escape size false with
        | .char c => return character s.ignoreCase c
        | .strict text ignoreCase => strict text ignoreCase
        | .reference g =>
          modify fun s => { s with referred := g :: s.referred }
          return .reference g
        | .other e => return e
      | c => return character s.ignoreCase c

/-- A group, whose parenthesis has been read. -/
def group (size : Nat) : Nat → Nat → R Wide
  | 0, _ => failure
  | fuel + 1, depth => do
    if maxDepth < depth then failure
    let outer ← get
    match ← opening with
    | .look behind negated =>
      let e ← expression size fuel depth
      close
      return .look behind negated e
    | .group number =>
      let e ← expression size fuel depth
      close
      return .group number e
    | .atomic =>
      let e ← expression size fuel depth
      close
      return .atomic e
    | .reference g => return .reference g
    | .conditional => conditional size fuel depth
    | .flags =>
      match ← flags ((← get).rest.length + 1) false 0 with
      | ')' => return .empty
      | _ =>
        let e ← expression size fuel depth
        expect ')'
        modify fun s =>
          { s with
            ignoreCase := outer.ignoreCase
            multiLine := outer.multiLine
            dotAll := outer.dotAll
            swapGreed := outer.swapGreed
            verbose := outer.verbose }
        return e

/-- A condition and what depends on it; the opening has been read. -/
def conditional (size : Nat) : Nat → Nat → R Wide
  | 0, _ => failure
  | fuel + 1, depth => do
    let (isReference, test) ← match ← peek? with
      | none => failure
      | some c =>
        if Parser.isDecimal c then
          pure (true, .entered (← numberedReference size))
        else if c = '\'' then pure (true, .entered (← namedReference "'" "'" true))
        else if c = '<' then pure (true, .entered (← namedReference "<" ">" true))
        else
          match ← expression size fuel depth with
          | .reference g => pure (true, .entered g)
          | e => pure (false, e)
    close
    let before := (← get).rest.length
    let body ← expression size fuel depth
    let isMissing := (← get).rest.length = before
    close
    if isMissing then
      if isReference then return test
      failure
    return condition test body

end

end Reader

/-- A pattern of the wide dialect, and the groups that its escapes refer to. -/
def parse? (pattern : String) : Option (Wide × List Nat) := do
  let cs := pattern.toList
  let start : Reader.State := ⟨cs, false, false, false, false, false, [], 0, false, []⟩
  let fuel := 8 * (cs.length + 2)
  let (e, s) ← (Reader.expression pattern.utf8ByteSize fuel 0).run start
  guard s.rest.isEmpty
  return (e, s.referred)

end TypeCatalog.Pattern.Wide
