import TypeCatalog.Text.Blank
import TypeCatalog.Pattern.Tree

/-!
# Reading patterns

`parse` turns the text of a pattern into the tree of its parts. Faults are found from left to right;
that parts stand too deep in one another is found when all has been read. Whether a property of
Unicode exists, and whether a set may be used where it stands, is not a matter of form.
-/

set_option autoImplicit false

namespace TypeCatalog.Pattern

namespace Parser

/-- Where a parser stands. -/
structure Scan where
  rest : List Char
  /-- The number of characters read. -/
  position : Nat
  /-- Whether blanks and comments are passed over. -/
  verbose : Bool
  /-- The names of groups and where they stand. -/
  names : List (String × Span)
deriving Inhabited

abbrev P := StateT Scan (Except PatternError)

def fail {α : Type} (fault : Fault) (start stop : Nat) : P α := throw ⟨fault, ⟨start, stop⟩, none⟩

def failTwice {α : Type} (fault : Fault) (span other : Span) : P α :=
  throw ⟨fault, span, some other⟩

def position : P Nat := return (← get).position

def peek? : P (Option Char) := return (← get).rest.head?

/-- The number of characters that are left, which bounds every loop. -/
def remaining : P Nat := return (← get).rest.length

/-- What is left after `n` characters. -/
def Scan.drop (n : Nat) (s : Scan) : Scan :=
  { s with rest := s.rest.drop n, position := s.position + min n s.rest.length }

def bump : P Unit := modify (Scan.drop 1)

/-- Reads a text when it comes next. -/
def bumpIf (text : List Char) : P Bool := do
  if text.isPrefixOf (← get).rest then
    modify (Scan.drop text.length)
    return true
  return false

/-- Reads the first of some texts that comes next. -/
def bumpAny : List (List Char) → P Bool
  | [] => return false
  | text :: texts => do
    if ← bumpIf text then return true
    bumpAny texts

/-- What is left after blanks and comments. -/
def dropComments (inComment : Bool) : List Char → List Char
  | [] => []
  | c :: cs =>
    if inComment then dropComments (c ≠ '\n') cs
    else if Text.isWhiteSpace c then dropComments false cs
    else if c = '#' then dropComments true cs
    else c :: cs

/-- Passes over blanks and comments where the pattern is verbose. -/
def skipSpace : P Unit := modify fun s =>
  if s.verbose then s.drop (s.rest.length - (dropComments false s.rest).length) else s

/-- Passes over a character and what may be skipped after it. -/
def advance : P Unit := do
  bump
  skipSpace

/-- The first character behind blanks and the sign of one comment; without one, the first of all. -/
def behindBlanks? (cs : List Char) : Option Char :=
  let cs' := cs.dropWhile Text.isWhiteSpace
  let cs' := if cs'.head? = some '#' then cs'.tail.dropWhile Text.isWhiteSpace else cs'
  cs'.head?.or cs.head?

/-- The character after the next, where blanks are passed over in a verbose pattern. -/
def peekSecond? : P (Option Char) := do
  let s ← get
  return if s.verbose then behindBlanks? s.rest.tail else s.rest.tail.head?

def isDecimal (c : Char) : Bool := '0' ≤ c && c ≤ '9'

def hexDigit? (c : Char) : Option Nat :=
  if isDecimal c then some (c.toNat - 48)
  else if 'a' ≤ c && c ≤ 'f' then some (c.toNat - 87)
  else if 'A' ≤ c && c ≤ 'F' then some (c.toNat - 55)
  else none

/-- The character of a code point. -/
def scalar? (n : Nat) : Option Char :=
  if n < 0xD800 ∨ (0xDFFF < n ∧ n < 0x110000) then some (Char.ofNat n) else none

/-! ## Escapes -/

/-- What an escape stands for. -/
inductive Atom where
  | char (c : Char) (isByte : Bool)
  | letter (negated : Bool) (c : LetterClass)
  | property (negated : Bool) (name : String)
  | assertion (a : Assertion)
deriving Inhabited

/-- Hexadecimal digits up to a closing brace, read after what was read before. -/
def bracedDigits (fuel : Nat) (value : Nat) (count : Nat) : P (Nat × Nat) := do
  advance
  match fuel, ← peek? with
  | _, none => return (value, count)
  | _, some '\x7d' => return (value, count)
  | 0, _ => return (value, count)
  | fuel + 1, some c =>
    match hexDigit? c with
    | none => fail .escapeHexInvalidDigit (← position) ((← position) + 1)
    | some d => bracedDigits fuel (value * 16 + d) (count + 1)

/-- A code point in braces; the parser stands at the opening one. -/
def bracedHex : P Char := do
  let brace ← position
  let (value, count) ← bracedDigits (← remaining) 0 0
  let stop ← position
  if (← peek?).isNone then fail .escapeUnexpectedEnd brace stop
  advance
  if count = 0 then fail .escapeHexEmpty brace (← position)
  match scalar? value with
  | some c => return c
  | none => fail .escapeHexInvalid (brace + 1) stop

/-- A number of hexadecimal digits. -/
def fixedDigits (isFirst : Bool) (value : Nat) : Nat → P Nat
  | 0 => return value
  | n + 1 => do
    if !isFirst then advance
    match ← peek? with
    | none => fail .escapeUnexpectedEnd (← position) (← position)
    | some c =>
      match hexDigit? c with
      | none => fail .escapeHexInvalidDigit (← position) ((← position) + 1)
      | some d => fixedDigits false (value * 16 + d) n

/-- A code point in hexadecimal digits; the parser stands at the letter. -/
def hex (letter : Char) : P Atom := do
  advance
  match ← peek? with
  | none => fail .escapeUnexpectedEnd (← position) (← position)
  | some '\x7b' => return .char (← bracedHex) false
  | some _ =>
    let start ← position
    let value ← fixedDigits true 0 (if letter = 'x' then 2 else if letter = 'u' then 4 else 8)
    advance
    match scalar? value with
    | some c => return .char c (letter = 'x')
    | none => fail .escapeHexInvalid start (← position)

/-- The characters up to a closing brace. -/
def bracedName (fuel : Nat) (name : List Char) : P (List Char) := do
  advance
  match fuel, ← peek? with
  | _, none => fail .escapeUnexpectedEnd (← position) (← position)
  | _, some '\x7d' => return name.reverse
  | 0, _ => return name.reverse
  | fuel + 1, some c => bracedName fuel (c :: name)

/-- The name of a property, in braces or as a single letter; the parser stands at the `p`. -/
def propertyName : P String := do
  advance
  match ← peek? with
  | none => fail .escapeUnexpectedEnd (← position) (← position)
  | some '\x7b' =>
    let name ← bracedName (← remaining) []
    bump
    return String.ofList name
  | some '\\' => fail .unicodeClassInvalid (← position) ((← position) + 1)
  | some c =>
    advance
    return c.toString

/-- The characters of a pattern that mean something. -/
def isMeta (c : Char) : Bool := "\\.+*?()|[]\x7b\x7d^$#&-~".toList.contains c

/-- Whether a character may be escaped although it means nothing. -/
def isEscapable (c : Char) : Bool :=
  isMeta c || (c.toNat < 128 && !(c.isAlpha || c.isDigit) && c ≠ '<' && c ≠ '>')

/-- The letters of the name of a word boundary. -/
def boundaryName (fuel : Nat) (name : List Char) : P (List Char) := do
  match fuel, ← peek? with
  | fuel + 1, some c =>
    if c.isAlpha || c = '-' then
      advance
      boundaryName fuel (c :: name)
    else return name.reverse
  | _, _ => return name.reverse

/-- A word boundary, of which a name in braces may follow. -/
def wordBoundary (start : Nat) : P Assertion := do
  if (← peek?) ≠ some '\x7b' then return .wordBoundary
  let saved ← get
  advance
  let contents ← position
  match ← peek? with
  | none => fail .wordBoundaryUnexpectedEnd start contents
  | some c =>
    if !(c.isAlpha || c = '-') then
      set saved
      return .wordBoundary
    let name ← boundaryName (← remaining) []
    let stop ← position
    if (← peek?) ≠ some '\x7d' then fail .wordBoundaryUnclosed saved.position stop
    bump
    match String.ofList name with
    | "start" => return .wordStart
    | "end" => return .wordEnd
    | "start-half" => return .wordStartHalf
    | "end-half" => return .wordEndHalf
    | _ => fail .wordBoundaryUnrecognized contents stop

/-- An escape of one letter that is not a class. -/
def letterEscape (start : Nat) (c : Char) : P Atom := do
  match c with
  | 'a' => return .char (Char.ofNat 7) false
  | 'f' => return .char (Char.ofNat 12) false
  | 't' => return .char '\t' false
  | 'n' => return .char '\n' false
  | 'r' => return .char '\r' false
  | 'v' => return .char (Char.ofNat 11) false
  | 'A' => return .assertion .startText
  | 'z' => return .assertion .endText
  | 'b' => return .assertion (← wordBoundary start)
  | 'B' => return .assertion .notWordBoundary
  | '<' => return .assertion .wordStart
  | '>' => return .assertion .wordEnd
  | _ => fail .escapeUnrecognized start (← position)

/-- The class that a letter stands for, and whether it is the complement. -/
def letterClass? (c : Char) : Option (Bool × LetterClass) :=
  match c with
  | 'd' => some (false, .digit)
  | 'D' => some (true, .digit)
  | 's' => some (false, .space)
  | 'S' => some (true, .space)
  | 'w' => some (false, .word)
  | 'W' => some (true, .word)
  | _ => none

/-- An escape; the parser stands at the backslash. -/
def escape : P Atom := do
  let start ← position
  bump
  match ← peek? with
  | none => fail .escapeUnexpectedEnd start (← position)
  | some c =>
    if isDecimal c then fail .backreference start ((← position) + 1)
    else if c = 'x' || c = 'u' || c = 'U' then hex c
    else if c = 'p' || c = 'P' then return .property (c = 'P') (← propertyName)
    else
      bump
      match letterClass? c with
      | some (negated, l) => return .letter negated l
      | none => if isEscapable c then return .char c false else letterEscape start c

/-! ## Classes in brackets -/

/-- A character or an escape inside brackets, with where it stands. `opening` is blamed when the
pattern ends here. -/
def classAtom (opening : Span) : P (Span × Atom) := do
  let start ← position
  let atom ← match ← peek? with
    | some '\\' => escape
    | some c => do
      bump
      pure (.char c false)
    | none => fail .classUnclosed opening.start opening.stop
  return (⟨start, ← position⟩, atom)

/-- The part of a class that an item is. -/
def classItem (span : Span) : Atom → P ClassTree
  | .char c isByte => return .literal ⟨span, c, isByte⟩
  | .letter negated c => return .letter span negated c
  | .property negated name => return .property span negated name
  | .assertion _ => fail .classEscapeInvalid span.start span.stop

/-- An end of a range. -/
def rangeEnd (span : Span) : Atom → P Literal
  | .char c isByte => return ⟨span, c, isByte⟩
  | _ => fail .classRangeLiteral span.start span.stop

/-- An item or a range of two. `opening` is blamed when the brackets are not closed. -/
def classRange (opening : Span) : P ClassTree := do
  let (span, first) ← classAtom opening
  skipSpace
  let next ← peek?
  if next.isNone then fail .classUnclosed opening.start opening.stop
  let second ← peekSecond?
  if next ≠ some '-' || second = some ']' || second = some '-' then classItem span first
  else
    advance
    if (← peek?).isNone then fail .classUnclosed opening.start opening.stop
    let (span', last) ← classAtom opening
    let a ← rangeEnd span first
    let b ← rangeEnd span' last
    if b.char < a.char then fail .classRangeInvalid span.start span'.stop
    return .range ⟨span.start, span'.stop⟩ a b

/-- A class of ASCII such as `[:alpha:]`; nothing is read when there is none. -/
def asciiClass : P (Option ClassTree) := do
  let rest := (← get).rest
  let start ← position
  let (negated, body) :=
    match rest with
    | '[' :: ':' :: '^' :: cs => (true, some cs)
    | '[' :: ':' :: cs => (false, some cs)
    | _ => (false, none)
  match body with
  | none => return none
  | some cs =>
    let (name, after) := cs.span (· ≠ ':')
    match after, asciiClass? (String.ofList name) with
    | ':' :: ']' :: left, some s =>
      modify (Scan.drop (rest.length - left.length))
      return some (.ascii ⟨start, ← position⟩ negated s)
    | _, _ => return none

/-- Hyphens at the start of brackets, which stand for themselves; the last read stands first. -/
def leadingHyphens (opening : Nat) (fuel : Nat) (items : List ClassTree) : P (List ClassTree) := do
  match fuel, ← peek? with
  | fuel + 1, some '-' =>
    let here ← position
    advance
    if (← peek?).isNone then fail .classUnclosed opening opening
    leadingHyphens opening fuel (.literal ⟨⟨here, here + 1⟩, '-', false⟩ :: items)
  | _, _ => return items

/-- Brackets that have been opened. -/
structure Bracket where
  /-- Where they were opened and what has been read of the opening. -/
  opening : Span
  negated : Bool
  /-- Where the items began. -/
  body : Nat
deriving DecidableEq, Inhabited

/-- The opening of brackets, with what stands first in them. -/
def openClass : P (Bracket × List ClassTree) := do
  let start ← position
  advance
  if (← peek?).isNone then fail .classUnclosed start (← position)
  let mut negated := false
  if (← peek?) = some '^' then
    negated := true
    advance
    if (← peek?).isNone then fail .classUnclosed start (← position)
  let body ← position
  let mut items ← leadingHyphens start (← remaining) []
  if items.isEmpty && (← peek?) = some ']' then
    items := [.literal ⟨⟨body, body + 1⟩, ']', false⟩]
    advance
    if (← peek?).isNone then fail .classUnclosed start (← position)
  return (⟨⟨start, ← position⟩, negated, body⟩, items)

/-- The set on the left of an operator, if there is one, applied to the one on the right. -/
def combine (left : Option (SetOp × ClassTree)) (right : ClassTree) : ClassTree :=
  match left with
  | none => right
  | some (kind, l) => .op ⟨l.span.start, right.span.stop⟩ kind l right

/-- The operator that comes next. -/
def setOp? : List Char → Option SetOp
  | '&' :: '&' :: _ => some .inter
  | '-' :: '-' :: _ => some .diff
  | '~' :: '~' :: _ => some .symmDiff
  | _ => none

/-- The rest of brackets that have been opened, up to and with the closing one: where they stand and
what is in them. The items read since the last operator stand in reverse; `body` is where they
began. -/
def classBody (fuel : Nat) (b : Bracket) (left : Option (SetOp × ClassTree)) (body : Nat)
    (items : List ClassTree) : P (Span × ClassTree) := do
  match fuel with
  | 0 => fail .classUnclosed b.opening.start b.opening.stop
  | fuel + 1 =>
    skipSpace
    let rest := (← get).rest
    match rest, setOp? rest with
    | [], _ => fail .classUnclosed b.opening.start b.opening.stop
    | ']' :: _, _ =>
      bump
      return (⟨b.opening.start, ← position⟩, combine left (.ofItems items.reverse body))
    | '[' :: _, _ =>
      match ← asciiClass with
      | some t => classBody fuel b left body (t :: items)
      | none =>
        let (b', first) ← openClass
        let (span, inner) ← classBody fuel b' none b'.body first
        classBody fuel b left body (.bracket span b'.negated inner :: items)
    | _, some kind =>
      modify (Scan.drop 2)
      let l := combine left (.ofItems items.reverse body)
      classBody fuel b (some (kind, l)) (← position) []
    | _, none => classBody fuel b left body ((← classRange b.opening) :: items)

/-- A class in brackets; the parser stands at the opening one. -/
def bracketed : P Tree := do
  let (b, first) ← openClass
  let (span, inner) ← classBody ((← remaining) + 1) b none b.body first
  return .bracket span b.negated inner

/-! ## Repetition -/

/-- The digits of a number. -/
def digits (fuel : Nat) (found : Bool) (value : Nat) : P (Bool × Nat) := do
  match fuel, ← peek? with
  | fuel + 1, some c =>
    if isDecimal c then
      advance
      digits fuel true (value * 10 + (c.toNat - 48))
    else return (found, value)
  | _, _ => return (found, value)

/-- Passes over white space. -/
def skipBlanks : P Unit := modify fun s =>
  s.drop (s.rest.length - (s.rest.dropWhile Text.isWhiteSpace).length)

/-- A count of a repetition. A fault is given back, for it is reported only when the count is
needed. -/
def count : P (Except PatternError Nat) := do
  skipBlanks
  let start ← position
  let (found, value) ← digits (← remaining) false 0
  let stop ← position
  skipBlanks
  if !found then return .error ⟨.repetitionCountEmpty, ⟨start, stop⟩, none⟩
  if 0x100000000 ≤ value then return .error ⟨.decimalInvalid, ⟨start, stop⟩, none⟩
  return .ok value

/-- The item that a repetition applies to, and those before it. The last item stands first. -/
def repeatable (items : List Tree) : P (Tree × List Tree) := do
  match items with
  | [] | .empty _ :: _ | .flags .. :: _ => fail .repetitionMissing (← position) (← position)
  | t :: before => return (t, before)

/-- Reads the mark of a repetition that prefers few; whether it prefers many. -/
def greedy : P Bool := return !(← bumpIf ['?'])

/-- A repetition without counts; the parser stands at its sign. -/
def uncounted (least : Nat) (most : Option Nat) (items : List Tree) : P (List Tree) := do
  let (t, before) ← repeatable items
  bump
  let many ← greedy
  return .repeated ⟨t.span.start, ← position⟩ least most many t :: before

/-- The bounds of a repetition, whose first count has been read. -/
def bounds (unclosed : P Unit) (low : Except PatternError Nat) : P (Nat × Option Nat) := do
  if (← peek?) ≠ some ',' then
    let least ← low
    return (least, some least)
  advance
  if (← peek?).isNone then unclosed
  if (← peek?) = some '\x7d' then return (← low, none)
  let least ← low
  let high ← count
  return (least, some (← high))

/-- A repetition with counts in braces; the parser stands at the opening one. -/
def counted (items : List Tree) : P (List Tree) := do
  let start ← position
  let (t, before) ← repeatable items
  let unclosed : P Unit := do fail .repetitionCountUnclosed start (← position)
  advance
  if (← peek?).isNone then unclosed
  let low ← count
  if (← peek?).isNone then unclosed
  let (least, most) ← bounds unclosed low
  if (← peek?) ≠ some '\x7d' then unclosed
  advance
  let many ← greedy
  if most.any (· < least) then fail .repetitionCountInvalid start (← position)
  return .repeated ⟨t.span.start, ← position⟩ least most many t :: before

/-! ## Groups -/

/-- A letter that sets a flag. -/
def isFlag (c : Char) : Bool := ['i', 'm', 's', 'U', 'u', 'R', 'x'].contains c

/-- The letters and the sign of a list of flags, each with its place, up to what ends the list. -/
def flagItems (fuel : Nat) (read : List (Char × Nat)) : P (List (Char × Nat)) := do
  let here ← position
  match fuel, ← peek? with
  | _, none => fail .flagUnexpectedEnd here here
  | 0, _ => fail .flagUnexpectedEnd here here
  | fuel + 1, some c =>
    if c = ':' || c = ')' then
      match read with
      | ('-', i) :: _ => fail .flagDanglingNegation i (i + 1)
      | _ => return read.reverse
    else if c = '-' || isFlag c then
      match read.lookup c with
      | some i =>
        failTwice (if c = '-' then .flagRepeatedNegation else .flagDuplicate)
          ⟨here, here + 1⟩ ⟨i, i + 1⟩
      | none =>
        bump
        flagItems fuel ((c, here) :: read)
    else fail .flagUnrecognized here (here + 1)

/-- Whether a letter of a list of flags sets its flag, or takes it away. -/
def flagState? (letter : Char) (letters : List Char) : Option Bool :=
  match letters.span (· ≠ letter) with
  | (_, []) => none
  | (before, _) => some (!before.contains '-')

/-- Whether a character may stand in the name of a group. -/
def isNameChar (first : Bool) (c : Char) : Bool :=
  c = '_' || Text.Trait.alphabetic.contains c
    || (!first && (c = '.' || c = '[' || c = ']'
        || (Text.Category.sets [.decimalNumber, .letterNumber, .otherNumber]).contains c))

/-- The name of a group up to the closing sign. -/
def groupName (fuel : Nat) (name : List Char) : P (List Char) := do
  let here ← position
  match fuel, ← peek? with
  | _, none => fail .groupNameUnclosed here here
  | 0, _ => fail .groupNameUnclosed here here
  | _, some '>' => return name.reverse
  | fuel + 1, some c =>
    if isNameChar name.isEmpty c then
      bump
      groupName fuel (c :: name)
    else fail .groupNameInvalid here (here + 1)

/-- A group that has a name; no other group may have it. -/
def namedGroup : P Unit := do
  let start ← position
  let name ← groupName (← remaining) []
  let stop ← position
  bump
  if name.isEmpty then fail .groupNameEmpty start start
  let text := String.ofList name
  match (← get).names.lookup text with
  | some first => failTwice .groupNameDuplicate ⟨start, stop⟩ first
  | none => modify fun s => { s with names := (text, ⟨start, stop⟩) :: s.names }

/-- What the opening of a group says. -/
inductive Opening where
  | group (kind : GroupKind)
  /-- Flags for what follows in the group around. -/
  | flags (letters : List Char)
deriving DecidableEq, Inhabited

/-- The opening of a group; the parser stands at the parenthesis. -/
def openGroup : P Opening := do
  let start ← position
  advance
  if ← bumpAny [['?', '='], ['?', '!'], ['?', '<', '='], ['?', '<', '!']] then
    fail .lookAround start (← position)
  let inner ← position
  if ← bumpAny [['?', 'P', '<'], ['?', '<']] then
    namedGroup
    return .group .capture
  if ← bumpIf ['?'] then
    if (← peek?).isNone then fail .groupUnclosed start (start + 1)
    let items ← flagItems ((← remaining) + 1) []
    let letters := items.map (·.1)
    let last ← peek?
    bump
    if last = some ')' then
      if items.isEmpty then fail .repetitionMissing inner inner
      return .flags letters
    return .group (.plain letters)
  return .group .capture

/-! ## Expressions -/

/-- A single character, a class of a letter, or a condition on the place. -/
def primitive (c : Char) : P Tree := do
  let start ← position
  match c with
  | '\\' =>
    let atom ← escape
    let span : Span := ⟨start, ← position⟩
    match atom with
    | .char c isByte => return .literal ⟨span, c, isByte⟩
    | .letter negated c => return .letter span negated c
    | .property negated name => return .property span negated name
    | .assertion a => return .assertion span a
  | _ =>
    bump
    let span : Span := ⟨start, ← position⟩
    match c with
    | '.' => return .dot span
    | '^' => return .assertion span .startLine
    | '$' => return .assertion span .endLine
    | c => return .literal ⟨span, c, false⟩

/-- What has been read of a group: where it began, and its branches and items in reverse. -/
structure Reading where
  /-- Where the group was opened; none stands for the whole pattern. -/
  opening : Option Nat
  /-- Where the first branch began. -/
  start : Nat
  branches : List Tree
  /-- Where the branch that is being read began. -/
  branchStart : Nat
  items : List Tree
deriving Inhabited

namespace Reading

/-- What is known of a group when its first branch begins. -/
def begin (opening : Option Nat) (here : Nat) : Reading := ⟨opening, here, [], here, []⟩

def push (r : Reading) (t : Tree) : Reading := { r with items := t :: r.items }

/-- The branch that ends at a place. -/
def branch (r : Reading) (here : Nat) : Tree := .ofItems ⟨r.branchStart, here⟩ r.items.reverse

/-- What is known when a branch has ended and the next begins a sign later. -/
def nextBranch (r : Reading) (here : Nat) : Reading :=
  { r with branches := r.branch here :: r.branches, branchStart := here + 1, items := [] }

/-- The whole of a group that ends at a place. -/
def finish (r : Reading) (here : Nat) : Tree :=
  .ofBranches ⟨r.start, here⟩ (r.branch here :: r.branches).reverse

end Reading

/-- The rest of a group up to the parenthesis that closes it, or of the whole pattern up to its
end. -/
def group (fuel : Nat) (r : Reading) : P Tree := do
  skipSpace
  let here ← position
  match fuel with
  | 0 => return r.finish here
  | fuel + 1 =>
    match ← peek? with
    | none =>
      match r.opening with
      | some start => fail .groupUnclosed start (start + 1)
      | none => return r.finish here
    | some '(' =>
      let outer := (← get).verbose
      match ← openGroup with
      | .flags letters =>
        modify fun s => { s with verbose := (flagState? 'x' letters).getD s.verbose }
        group fuel (r.push (.flags ⟨here, ← position⟩ letters))
      | .group kind =>
        let letters := match kind with
          | .capture => []
          | .plain letters => letters
        modify fun s => { s with verbose := (flagState? 'x' letters).getD s.verbose }
        let inner ← group fuel (.begin (some here) (← position))
        modify fun s => { s with verbose := outer }
        group fuel (r.push (.group ⟨here, ← position⟩ kind inner))
    | some ')' =>
      match r.opening with
      | none => fail .groupUnopened here (here + 1)
      | some _ =>
        bump
        return r.finish here
    | some '|' =>
      bump
      group fuel (r.nextBranch here)
    | some '[' => group fuel (r.push (← bracketed))
    | some '?' => group fuel { r with items := ← uncounted 0 (some 1) r.items }
    | some '*' => group fuel { r with items := ← uncounted 0 none r.items }
    | some '+' => group fuel { r with items := ← uncounted 1 none r.items }
    | some '\x7b' => group fuel { r with items := ← counted r.items }
    | some c => group fuel (r.push (← primitive c))

end Parser

/-- The parts of a pattern. -/
def parse (pattern : String) : Except PatternError Tree := do
  let cs := pattern.toList
  let (t, _) ← (Parser.group (cs.length + 1) (.begin none 0)).run ⟨cs, 0, false, []⟩
  match t.tooDeep? nestLimit with
  | some span => throw ⟨.nestLimit, span, none⟩
  | none => return t

end TypeCatalog.Pattern
