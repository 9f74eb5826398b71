import TypeCatalog.Json.Basic

/-!
# Reading JSON text

`Json.parse` reads one value. A text that holds none is refused with the first fault, and with the
line and column where it was noticed. Lines count from one. A column is a number of bytes: those of
the line up to the last one read, plus one when the fault lies in the byte that comes next.

A number without fraction and exponent that fits 64 bits is an integer. Any other number is a
binary64 value: as many digits as fit an unsigned 64-bit word are rounded to binary64, and the
result is multiplied or divided by a power of ten that is a binary64 value itself. A text that
repeats the name of a member keeps the first place and the last value.
-/

set_option autoImplicit false

namespace TypeCatalog.Json

/-- What is wrong with a text. -/
inductive Fault where
  | endInValue
  | endInList
  | endInObject
  | endInString
  | expectedColon
  | expectedCommaOrBracket
  | expectedCommaOrBrace
  | expectedIdent
  | expectedValue
  | invalidEscape
  | invalidNumber
  | numberOutOfRange
  | nameNotAString
  | controlCharacter
  | loneSurrogate
  | endOfHexEscape
  | trailingComma
  | trailingCharacters
  | tooDeep
deriving DecidableEq, Inhabited

namespace Fault

/-- The wording of a fault. -/
def message : Fault → String
  | endInValue => "EOF while parsing a value"
  | endInList => "EOF while parsing a list"
  | endInObject => "EOF while parsing an object"
  | endInString => "EOF while parsing a string"
  | expectedColon => "expected `:`"
  | expectedCommaOrBracket => "expected `,` or `]`"
  | expectedCommaOrBrace => "expected `,` or `\x7d`"
  | expectedIdent => "expected ident"
  | expectedValue => "expected value"
  | invalidEscape => "invalid escape"
  | invalidNumber => "invalid number"
  | numberOutOfRange => "number out of range"
  | nameNotAString => "key must be a string"
  | controlCharacter => "control character (\\u0000-\\u001F) found while parsing a string"
  | loneSurrogate => "lone leading surrogate in hex escape"
  | endOfHexEscape => "unexpected end of hex escape"
  | trailingComma => "trailing comma"
  | trailingCharacters => "trailing characters"
  | tooDeep => "recursion limit exceeded"

end Fault

/-- A fault and the place where it was noticed. -/
structure ReadError where
  fault : Fault
  line : Nat
  column : Nat
deriving DecidableEq, Inhabited

/-- The wording of an error. -/
def ReadError.message (e : ReadError) : String :=
  e.fault.message ++ " at line " ++ toString e.line ++ " column " ++ toString e.column

namespace Reader

/-- A fault, the characters that were left unread, and whether the fault lies in the first of them.
-/
structure Stop where
  fault : Fault
  rest : List Char
  ahead : Bool
deriving Inhabited

/-- What a reading step gives: a result with the characters that follow it. -/
abbrev Step (α : Type) := Except Stop (α × List Char)

/-- A fault that was noticed after a character had been read. -/
def failAt {α : Type} (fault : Fault) (rest : List Char) : Except Stop α :=
  .error ⟨fault, rest, false⟩

/-- A fault in the character that comes next. -/
def failAhead {α : Type} (fault : Fault) (rest : List Char) : Except Stop α :=
  .error ⟨fault, rest, true⟩

/-- The blanks between tokens. -/
def isBlank (c : Char) : Bool := c = ' ' || c = '\n' || c = '\t' || c = '\r'

def skipBlanks (cs : List Char) : List Char := cs.dropWhile isBlank

/-- The value of a decimal digit. -/
def digit? (c : Char) : Option Nat :=
  if '0' ≤ c ∧ c ≤ '9' then some (c.toNat - '0'.toNat) else none

/-- The value of a hexadecimal digit. -/
def hexDigit? (c : Char) : Option Nat :=
  if '0' ≤ c ∧ c ≤ '9' then some (c.toNat - '0'.toNat)
  else if 'a' ≤ c ∧ c ≤ 'f' then some (c.toNat - 'a'.toNat + 10)
  else if 'A' ≤ c ∧ c ≤ 'F' then some (c.toNat - 'A'.toNat + 10)
  else none

/-! ## Words and texts -/

/-- The rest of a word whose first character has been read. -/
def word (value : Json) : List Char → List Char → Step Json
  | [], cs => .ok (value, cs)
  | _ :: _, [] => failAt .endInValue []
  | e :: es, c :: cs => if e = c then word value es cs else failAhead .expectedIdent (c :: cs)

/-- A number of bytes from the front, in whole characters. -/
def takeBytes : Nat → List Char → Option (List Char × List Char)
  | 0, cs => some ([], cs)
  | _ + 1, [] => none
  | n + 1, c :: cs => (takeBytes (n + 1 - c.utf8Size) cs).map fun (a, b) => (c :: a, b)

/-- Four hexadecimal digits. -/
def hexUnit (cs : List Char) : Step Nat :=
  match takeBytes 4 cs with
  | none => failAt .endInString []
  | some (ds, rest) =>
    match ds.mapM hexDigit? with
    | some [a, b, c, d] => .ok (((a * 16 + b) * 16 + c) * 16 + d, rest)
    | _ => failAt .invalidEscape rest

/-- The second half of a pair of surrogates, whose first half is `high`. -/
def lowSurrogate (high : Nat) (cs : List Char) : Except Stop (Char × List Char) :=
  match cs with
  | [] => failAt .endInString []
  | '\\' :: [] => failAt .endInString []
  | '\\' :: 'u' :: cs => do
    let (low, cs) ← hexUnit cs
    if 0xDC00 ≤ low ∧ low ≤ 0xDFFF then
      .ok (Char.ofNat (0x10000 + (high - 0xD800) * 0x400 + (low - 0xDC00)), cs)
    else failAt .loneSurrogate cs
  | '\\' :: cs => failAhead .endOfHexEscape cs
  | cs => failAhead .endOfHexEscape cs

/-- The character that an escape stands for; the backslash has been read. -/
def escaped : List Char → Except Stop (Char × List Char)
  | [] => failAt .endInString []
  | '"' :: cs => .ok ('"', cs)
  | '\\' :: cs => .ok ('\\', cs)
  | '/' :: cs => .ok ('/', cs)
  | 'b' :: cs => .ok (Char.ofNat 8, cs)
  | 'f' :: cs => .ok (Char.ofNat 12, cs)
  | 'n' :: cs => .ok ('\n', cs)
  | 'r' :: cs => .ok ('\r', cs)
  | 't' :: cs => .ok ('\t', cs)
  | 'u' :: cs => do
    let (unit, cs) ← hexUnit cs
    if 0xDC00 ≤ unit ∧ unit ≤ 0xDFFF then failAt .loneSurrogate cs
    else if 0xD800 ≤ unit ∧ unit ≤ 0xDBFF then lowSurrogate unit cs
    else .ok (Char.ofNat unit, cs)
  | cs => failAhead .invalidEscape cs

/-- A text up to its closing quote; the opening one has been read. Each round reads a character, so
as many rounds as there are characters are enough. -/
def quoted (rounds : Nat) (read : List Char) (cs : List Char) : Except Stop (String × List Char) :=
  match rounds, cs with
  | _, [] => failAt .endInString []
  | 0, cs => failAt .endInString cs
  | _ + 1, '"' :: cs => .ok (String.ofList read.reverse, cs)
  | rounds + 1, '\\' :: cs => do
    let (c, cs) ← escaped cs
    quoted rounds (c :: read) cs
  | rounds + 1, c :: cs =>
    if c.val < 0x20 then failAt .controlCharacter cs else quoted rounds (c :: read) cs

/-- A text whose opening quote has been read. -/
def text (cs : List Char) : Step String := quoted cs.length [] cs

/-! ## Numbers -/

/-- Whether `n` fits an unsigned 64-bit word. -/
def fits (n : Nat) : Bool := n < 0x10000000000000000

/-- A power of ten as a binary64 value. -/
def powerOfTen (n : Nat) : Dyadic := Binary64.roundRatio (Nat.pow 10 n) 1

/-- The magnitude `m * 10 ^ exponent`. Powers beyond `10 ^ 308` are no binary64 values: a division
by one is made in steps, which end when nothing is left of `m`. -/
def scale? (rounds : Nat) (m : Dyadic) (exponent : Int) : Option Dyadic :=
  if exponent.natAbs ≤ 308 then
    if 0 ≤ exponent then Binary64.mulMagnitude? m (powerOfTen exponent.natAbs)
    else Binary64.divMagnitude? m (powerOfTen exponent.natAbs)
  else if m = 0 then some 0
  else if 0 ≤ exponent then none
  else
    match rounds with
    | 0 => some 0
    | rounds + 1 =>
      (Binary64.divMagnitude? m (powerOfTen 308)).bind (scale? rounds · (exponent + 308))

/-- A binary64 value with a sign. -/
def signed (negative : Bool) (m : Dyadic) : Binary64 :=
  if negative then (Binary64.finite m).negate else .finite m

/-- The number `significand * 10 ^ exponent`. -/
def fromParts (negative : Bool) (significand : Nat) (exponent : Int) (cs : List Char) :
    Step Number :=
  match scale? 4 (Binary64.roundRatio significand 1) exponent with
  | some m => .ok (.real (signed negative m), cs)
  | none => failAt .numberOutOfRange cs

/-- The digits of an exponent, as long as it fits a signed 32-bit word; `none` with what follows
when it does not. -/
def exponentDigits (exponent : Nat) : List Char → Option Nat × List Char
  | [] => (some exponent, [])
  | c :: cs =>
    match digit? c with
    | none => (some exponent, c :: cs)
    | some d =>
      if exponent * 10 + d < 0x80000000 then exponentDigits (exponent * 10 + d) cs else (none, cs)

/-- The sign and the digits of an exponent; the letter has been read. -/
def exponentPart (negative : Bool) (significand : Nat) (start : Int) (cs : List Char) :
    Step Number :=
  let (below, cs) : Bool × List Char :=
    match cs with
    | '+' :: cs => (false, cs)
    | '-' :: cs => (true, cs)
    | cs => (false, cs)
  match cs with
  | [] => failAt .endInValue []
  | c :: cs =>
    match digit? c with
    | none => failAhead .invalidNumber (c :: cs)
    | some d =>
      match exponentDigits d cs with
      | (some e, cs) => fromParts negative significand (if below then start - e else start + e) cs
      | (none, cs) =>
        if significand ≠ 0 ∧ !below then failAt .numberOutOfRange cs
        else .ok (.real (signed negative 0), cs.dropWhile (digit? · |>.isSome))

/-- What may follow the digits of a number: an exponent or nothing. -/
def afterDigits (negative : Bool) (significand : Nat) (exponent : Int) (cs : List Char) :
    Step Number :=
  match cs with
  | 'e' :: cs => exponentPart negative significand exponent cs
  | 'E' :: cs => exponentPart negative significand exponent cs
  | cs => fromParts negative significand exponent cs

/-- The digits of a fraction, as long as all digits fit a word; those beyond are dropped. The count
tells how many were kept. -/
def fractionDigits (significand kept : Nat) : List Char → Nat × Nat × List Char
  | [] => (significand, kept, [])
  | c :: cs =>
    match digit? c with
    | none => (significand, kept, c :: cs)
    | some d =>
      if fits (significand * 10 + d) then fractionDigits (significand * 10 + d) (kept + 1) cs
      else (significand, kept, cs.dropWhile (digit? · |>.isSome))

/-- The fraction of a number; the point has been read. -/
def fraction (negative : Bool) (significand : Nat) (exponent : Int) (cs : List Char) :
    Step Number :=
  match cs with
  | [] => failAhead .endInValue []
  | c :: _ =>
    if (digit? c).isNone then failAhead .invalidNumber cs
    else
      let (significand, kept, rest) := fractionDigits significand 0 cs
      afterDigits negative significand (exponent - kept) rest

/-- What follows the digits in front of the point, of which `dropped` did not fit a word. -/
def afterInteger (negative : Bool) (significand dropped : Nat) (cs : List Char) : Step Number :=
  match cs with
  | '.' :: cs => fraction negative significand dropped cs
  | 'e' :: cs => exponentPart negative significand dropped cs
  | 'E' :: cs => exponentPart negative significand dropped cs
  | cs =>
    if dropped ≠ 0 then fromParts negative significand dropped cs
    else if !negative then .ok (.integer significand, cs)
    else if 0 < significand ∧ significand ≤ 0x8000000000000000 then
      .ok (.integer (-significand), cs)
    else fromParts negative significand 0 cs

/-- The digits in front of the point, as long as they fit a word; the others are counted. -/
def integerDigits (significand : Nat) : List Char → Nat × Nat × List Char
  | [] => (significand, 0, [])
  | c :: cs =>
    match digit? c with
    | none => (significand, 0, c :: cs)
    | some d =>
      if fits (significand * 10 + d) then integerDigits (significand * 10 + d) cs
      else
        let (more, rest) := cs.span (digit? · |>.isSome)
        (significand, more.length + 1, rest)

/-- A number after its sign. -/
def number (negative : Bool) (cs : List Char) : Step Number :=
  match cs with
  | [] => failAt .endInValue []
  | '0' :: cs =>
    match cs with
    | c :: _ =>
      if (digit? c).isSome then failAhead .invalidNumber cs else afterInteger negative 0 0 cs
    | [] => afterInteger negative 0 0 []
  | c :: cs =>
    match digit? c with
    | none => failAhead .invalidNumber (c :: cs)
    | some d =>
      let (significand, dropped, rest) := integerDigits d cs
      afterInteger negative significand dropped rest

/-! ## Values -/

/-- A list that has been opened, with the items so far, the last first; or an object, with the
members so far and the name that waits for its value. -/
inductive Frame where
  | items (done : List Json)
  | members (done : List (String × Json)) (name : String)
deriving Inhabited

/-- How many lists and objects may be open at once. -/
def depthLimit : Nat := 127

/-- The name of a member and the colon after it; the opening quote has been read. -/
def memberName (cs : List Char) : Except Stop (String × List Char) := do
  let (name, cs) ← text cs
  match skipBlanks cs with
  | ':' :: cs => .ok (name, cs)
  | [] => failAhead .endInObject []
  | cs => failAhead .expectedColon cs

/-- Where a reader stands: in front of a value, or behind one. -/
inductive Place where
  | before
  | behind (value : Json)
deriving Inhabited

/-- One round: what is open, where the reader stands, and what is left, or the whole value. -/
abbrev Round := Except Stop (Json ⊕ (List Frame × Place × List Char))

/-- The value that starts here. -/
def openValue (frames : List Frame) (cs : List Char) : Round :=
  let scalar (step : Step Json) : Round := step.map fun (v, cs) => .inr (frames, .behind v, cs)
  match skipBlanks cs with
  | [] => failAhead .endInValue []
  | 'n' :: cs => scalar (word .null ['u', 'l', 'l'] cs)
  | 't' :: cs => scalar (word (.bool true) ['r', 'u', 'e'] cs)
  | 'f' :: cs => scalar (word (.bool false) ['a', 'l', 's', 'e'] cs)
  | '"' :: cs => scalar ((text cs).map fun (s, cs) => (.string s, cs))
  | '-' :: cs => scalar ((number true cs).map fun (n, cs) => (.number n, cs))
  | '[' :: cs =>
    if depthLimit ≤ frames.length then failAhead .tooDeep ('[' :: cs)
    else
      match skipBlanks cs with
      | [] => failAhead .endInList []
      | ']' :: cs => .ok (.inr (frames, .behind (.array []), cs))
      | cs => .ok (.inr (.items [] :: frames, .before, cs))
  | '\x7b' :: cs =>
    if depthLimit ≤ frames.length then failAhead .tooDeep ('\x7b' :: cs)
    else
      match skipBlanks cs with
      | [] => failAhead .endInObject []
      | '\x7d' :: cs => .ok (.inr (frames, .behind (.object []), cs))
      | '"' :: cs => do
        let (name, cs) ← memberName cs
        .ok (.inr (.members [] name :: frames, .before, cs))
      | cs => failAhead .nameNotAString cs
  | c :: cs =>
    if (digit? c).isSome then scalar ((number false (c :: cs)).map fun (n, cs) => (.number n, cs))
    else failAhead .expectedValue (c :: cs)

/-- What follows a value. -/
def closeValue (frames : List Frame) (value : Json) (cs : List Char) : Round :=
  match frames, skipBlanks cs with
  | [], [] => .ok (.inl value)
  | [], cs => failAhead .trailingCharacters cs
  | .items _ :: _, [] => failAhead .endInList []
  | .items done :: frames, ']' :: cs =>
    .ok (.inr (frames, .behind (.array (value :: done).reverse), cs))
  | .items done :: frames, ',' :: cs =>
    match skipBlanks cs with
    | [] => failAhead .endInValue []
    | ']' :: cs => failAhead .trailingComma (']' :: cs)
    | cs => .ok (.inr (.items (value :: done) :: frames, .before, cs))
  | .items _ :: _, cs => failAhead .expectedCommaOrBracket cs
  | .members _ _ :: _, [] => failAhead .endInObject []
  | .members done name :: frames, '\x7d' :: cs =>
    .ok (.inr (frames, .behind (.object (put name value done)), cs))
  | .members done name :: frames, ',' :: cs =>
    match skipBlanks cs with
    | [] => failAhead .endInValue []
    | '\x7d' :: cs => failAhead .trailingComma ('\x7d' :: cs)
    | '"' :: cs => do
      let (next, cs) ← memberName cs
      .ok (.inr (.members (put name value done) next :: frames, .before, cs))
    | cs => failAhead .nameNotAString cs
  | .members _ _ :: _, cs => failAhead .expectedCommaOrBrace cs

/-- Rounds until the value is complete. Every round reads a character, but for the last. -/
def run (rounds : Nat) (frames : List Frame) (place : Place) (cs : List Char) : Except Stop Json :=
  match rounds with
  | 0 => failAhead .endInValue cs
  | rounds + 1 =>
    let round := match place with
      | .before => openValue frames cs
      | .behind v => closeValue frames v cs
    match round with
    | .error e => .error e
    | .ok (.inl v) => .ok v
    | .ok (.inr (frames, place, cs)) => run rounds frames place cs

/-- The line and the column after some bytes of a line, given as characters; a character that lies
ahead counts one byte. -/
def locate (line column : Nat) : List Char → Nat × Nat
  | [] => (line, column)
  | '\n' :: cs => locate (line + 1) 0 cs
  | c :: cs => locate line (column + c.utf8Size) cs

/-- The error that a stop stands for in a text. -/
def Stop.toError (whole : List Char) (s : Stop) : ReadError :=
  let (line, column) := locate 1 0 (whole.take (whole.length - s.rest.length))
  match s.ahead, s.rest with
  | true, '\n' :: _ => ⟨s.fault, line + 1, 0⟩
  | true, _ :: _ => ⟨s.fault, line, column + 1⟩
  | _, _ => ⟨s.fault, line, column⟩

end Reader

/-- The value that a text holds. -/
def parse (s : String) : Except ReadError Json :=
  let cs := s.toList
  (Reader.run (2 * cs.length + 2) [] .before cs).mapError (Reader.Stop.toError cs)

end TypeCatalog.Json
