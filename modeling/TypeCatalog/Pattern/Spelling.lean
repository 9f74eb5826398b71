import TypeCatalog.Pattern.Parser

/-!
# The spelling of patterns in schemas

In a schema the classes of letters are those of ASCII, but for a few more blanks, and `\c` with a
letter is a control character. `spell?` writes such a pattern down in the wide dialect: controls as
they are, and classes of letters in brackets. A pattern that looks around or refers back is left as
it is.
-/

set_option autoImplicit false

namespace TypeCatalog.Pattern

namespace LetterClass

/-- The characters of a class as they stand in brackets. -/
def spelledBody : LetterClass → List Char
  | digit => "0-9".toList
  | word => "A-Za-z0-9_".toList
  | space =>
    [' ', '\t', '\n', '\r'] ++ [0x0B, 0x0C, 0xA0, 0xFEFF, 0x2003, 0x2029].map Char.ofNat

/-- A class in brackets. -/
def spelled (negated : Bool) (c : LetterClass) : List Char :=
  (if negated then ['[', '^'] else ['[']) ++ c.spelledBody ++ [']']

end LetterClass

namespace ClassTree

mutual

/-- Where classes of letters stand, from left to right, and how they are spelled. -/
def letters : ClassTree → List (Span × List Char)
  | letter span negated c => [(span, c.spelled negated)]
  | bracket _ _ t => t.letters
  | union _ ts => allLetters ts
  | op _ _ l r => l.letters ++ r.letters
  | _ => []

def allLetters : List ClassTree → List (Span × List Char)
  | [] => []
  | t :: ts => t.letters ++ allLetters ts

end

end ClassTree

namespace Tree

mutual

/-- Where classes of letters stand, from left to right, and how they are spelled. -/
def letters : Tree → List (Span × List Char)
  | letter span negated c => [(span, c.spelled negated)]
  | bracket _ _ t => t.letters
  | repeated _ _ _ _ t => t.letters
  | group _ _ t => t.letters
  | alternation _ ts => allLetters ts
  | concat _ ts => allLetters ts
  | _ => []

def allLetters : List Tree → List (Span × List Char)
  | [] => []
  | t :: ts => t.letters ++ allLetters ts

end

mutual

/-- Where characters stand for themselves outside of brackets. -/
def literals : Tree → List Span
  | literal l => [l.span]
  | repeated _ _ _ _ t => t.literals
  | group _ _ t => t.literals
  | alternation _ ts => allLiterals ts
  | concat _ ts => allLiterals ts
  | _ => []

def allLiterals : List Tree → List Span
  | [] => []
  | t :: ts => t.literals ++ allLiterals ts

end

end Tree

/-- The characters of a span. -/
def Span.slice (s : Span) (cs : List Char) : List Char := (cs.drop s.start).take (s.stop - s.start)

/-- A text with some of its spans, in ascending order, replaced. `start` is the place of the first
character. -/
def replaceSpans (start : Nat) (cs : List Char) : List (Span × List Char) → List Char
  | [] => cs
  | (s, new) :: rest =>
    cs.take (s.start - start) ++ new ++ replaceSpans s.stop (cs.drop (s.stop - start)) rest

/-- The control character of the letter that follows a span, when there is one. -/
def controlAfter? (s : Span) (cs : List Char) : Option Char :=
  match cs.drop s.stop with
  | l :: _ => if l.isAlpha then some (Char.ofNat (l.toNat % 32)) else none
  | [] => none

/-- A pattern of a schema with controls replaced, and its parts where it is not one that looks
around or refers back. There are at most `fuel` controls. -/
def readControls (fuel : Nat) (cs : List Char) : Option (List Char × Option Tree) :=
  match parse (String.ofList cs) with
  | .ok t => some (cs, some t)
  | .error e =>
    if e.fault = .lookAround || e.fault = .backreference then some (cs, none)
    else if e.fault = .escapeUnrecognized && e.span.slice cs = ['\\', 'c'] then
      match fuel, controlAfter? e.span cs with
      | fuel + 1, some c =>
        readControls fuel (replaceSpans 0 cs [(⟨e.span.start, e.span.stop + 1⟩, [c])])
      | _, _ => none
    else none

/-- The spelling of a pattern in the wide dialect; none when it is no pattern of schemas. Outside of
brackets there is no escape for the bell. -/
def spell? (pattern : String) : Option String := do
  let (cs, tree) ← readControls pattern.length pattern.toList
  match tree with
  | none => return String.ofList cs
  | some t =>
    guard <| t.literals.all fun s => s.slice cs ≠ ['\\', 'a']
    let spelled := String.ofList (replaceSpans 0 cs t.letters)
    guard (parse spelled).isOk
    return spelled

end TypeCatalog.Pattern
