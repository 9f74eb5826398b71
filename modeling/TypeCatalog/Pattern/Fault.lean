/-!
# Faults of a pattern

A fault has a span of characters of the pattern, and sometimes a second one. `PatternError.report`
writes the pattern down and marks the spans with carets underneath.
-/

set_option autoImplicit false

namespace TypeCatalog.Pattern

/-- What is wrong with a pattern. -/
inductive Fault where
  | classEscapeInvalid
  | classRangeInvalid
  | classRangeLiteral
  | classUnclosed
  | decimalInvalid
  | escapeHexEmpty
  | escapeHexInvalid
  | escapeHexInvalidDigit
  | escapeUnexpectedEnd
  | escapeUnrecognized
  | flagDanglingNegation
  | flagDuplicate
  | flagRepeatedNegation
  | flagUnexpectedEnd
  | flagUnrecognized
  | groupNameDuplicate
  | groupNameEmpty
  | groupNameInvalid
  | groupNameUnclosed
  | groupUnclosed
  | groupUnopened
  | repetitionCountInvalid
  | repetitionCountEmpty
  | repetitionCountUnclosed
  | repetitionMissing
  | wordBoundaryUnclosed
  | wordBoundaryUnrecognized
  | wordBoundaryUnexpectedEnd
  | unicodeClassInvalid
  | unknownProperty
  | unknownPropertyValue
  | backreference
  | lookAround
  /-- Groups, brackets and what else contains others stand too deep in one another. -/
  | nestLimit
  /-- What must match bytes in ASCII names other characters. -/
  | unicodeNotAllowed
  /-- What matches bytes could match one that is not in ASCII. -/
  | invalidUtf8
deriving DecidableEq, Inhabited

/-- How deep the parts of a pattern may stand in one another. -/
def nestLimit : Nat := 250

namespace Fault

/-- The wording of a fault. -/
def message : Fault → String
  | classEscapeInvalid => "invalid escape sequence found in character class"
  | classRangeInvalid => "invalid character class range, the start must be <= the end"
  | classRangeLiteral => "invalid range boundary, must be a literal"
  | classUnclosed => "unclosed character class"
  | decimalInvalid => "decimal literal invalid"
  | escapeHexEmpty => "hexadecimal literal empty"
  | escapeHexInvalid => "hexadecimal literal is not a Unicode scalar value"
  | escapeHexInvalidDigit => "invalid hexadecimal digit"
  | escapeUnexpectedEnd => "incomplete escape sequence, reached end of pattern prematurely"
  | escapeUnrecognized => "unrecognized escape sequence"
  | flagDanglingNegation => "dangling flag negation operator"
  | flagDuplicate => "duplicate flag"
  | flagRepeatedNegation => "flag negation operator repeated"
  | flagUnexpectedEnd => "expected flag but got end of regex"
  | flagUnrecognized => "unrecognized flag"
  | groupNameDuplicate => "duplicate capture group name"
  | groupNameEmpty => "empty capture group name"
  | groupNameInvalid => "invalid capture group character"
  | groupNameUnclosed => "unclosed capture group name"
  | groupUnclosed => "unclosed group"
  | groupUnopened => "unopened group"
  | repetitionCountInvalid => "invalid repetition count range, the start must be <= the end"
  | repetitionCountEmpty => "repetition quantifier expects a valid decimal"
  | repetitionCountUnclosed => "unclosed counted repetition"
  | repetitionMissing => "repetition operator missing expression"
  | wordBoundaryUnclosed =>
    "special word boundary assertion is either unclosed or contains an invalid character"
  | wordBoundaryUnrecognized =>
    "unrecognized special word boundary assertion, valid choices are: "
      ++ "start, end, start-half or end-half"
  | wordBoundaryUnexpectedEnd =>
    "found either the beginning of a special word boundary or a bounded repetition on a \\b "
      ++ "with an opening brace, but no closing brace"
  | unicodeClassInvalid => "invalid Unicode character class"
  | unknownProperty => "Unicode property not found"
  | unknownPropertyValue => "Unicode property value not found"
  | backreference => "backreferences are not supported"
  | lookAround => "look-around, including look-ahead and look-behind, is not supported"
  | nestLimit =>
    "exceed the maximum number of nested parentheses/brackets ("
      ++ toString Pattern.nestLimit ++ ")"
  | unicodeNotAllowed => "Unicode not allowed here"
  | invalidUtf8 => "pattern can match invalid UTF-8"

end Fault

/-- Characters of a pattern from `start` up to `stop`, which is not taken in. -/
structure Span where
  start : Nat
  stop : Nat
deriving DecidableEq, Inhabited

/-- A fault and the characters it concerns. -/
structure PatternError where
  fault : Fault
  span : Span
  /-- A second span, such as the first of two equal names. -/
  other : Option Span
deriving DecidableEq, Inhabited

namespace PatternError

/-- The line and the column of a character, both counted from one. -/
def locate (line column : Nat) : Nat → List Char → Nat × Nat
  | 0, _ => (line, column)
  | _ + 1, [] => (line, column)
  | n + 1, c :: cs => if c = '\n' then locate (line + 1) 1 n cs else locate line (column + 1) n cs

/-- A span by lines and columns. -/
structure Mark where
  startLine : Nat
  startColumn : Nat
  stopLine : Nat
  stopColumn : Nat
deriving DecidableEq, Inhabited

def mark (pattern : List Char) (s : Span) : Mark :=
  let (a, b) := locate 1 1 s.start pattern
  let (c, d) := locate 1 1 s.stop pattern
  ⟨a, b, c, d⟩

def repeatChar (c : Char) (n : Nat) : String := String.ofList (List.replicate n c)

/-- Carets under the columns of marks, which come in order; at least one for each mark. -/
def carets (column : Nat) : List Mark → List Char
  | [] => []
  | m :: ms =>
    let gap := m.startColumn - 1 - column
    let width := max 1 (m.stopColumn - m.startColumn)
    List.replicate gap ' ' ++ List.replicate width '^' ++ carets (column + gap + width) ms

/-- The lines of a pattern, with the line that is being read in reverse. A carriage return before
the end of a line belongs to that end; nothing after the last end is no line. -/
def lines (current : List Char) : List Char → List (List Char)
  | [] => if current.isEmpty then [] else [current.reverse]
  | '\n' :: cs =>
    (if current.head? = some '\r' then current.tail else current).reverse :: lines [] cs
  | c :: cs => lines (c :: current) cs

/-- The lines of a pattern, each with its number when there are several, and carets underneath. -/
def notate (numberWidth : Nat) (marks : List Mark) (ls : List (List Char)) : String :=
  String.join <| ls.zipIdx.map fun (line, i) =>
    let number := toString (i + 1)
    let front :=
      if numberWidth = 0 then "    "
      else repeatChar ' ' (numberWidth - number.length) ++ number ++ ": "
    let here := (marks.filter fun m => m.startLine = i + 1).mergeSort fun m n =>
      m.startColumn < n.startColumn
        || (m.startColumn = n.startColumn && m.stopColumn ≤ n.stopColumn)
    let under :=
      if here.isEmpty then ""
      else repeatChar ' ' (if numberWidth = 0 then 4 else numberWidth + 2)
        ++ String.ofList (carets 0 here) ++ "\n"
    front ++ String.ofList line ++ "\n" ++ under

/-- What is wrong with a pattern, with the pattern itself and carets under the spans. A pattern of
several lines stands between two rules, and spans over several lines are told in words. -/
def report (e : PatternError) (pattern : String) : String :=
  let cs := pattern.toList
  let marks := (e.span :: e.other.toList).map (mark cs)
  let (single, several) := marks.partition fun m => m.startLine = m.stopLine
  let ls := lines [] cs
  let count := ls.length + if cs.getLast? = some '\n' then 1 else 0
  let width := if count ≤ 1 then 0 else (toString count).length
  let body := notate width single ls
  if cs.contains '\n' then
    let rule := repeatChar '~' 79
    let notes := several.map fun m =>
      "on line " ++ toString m.startLine ++ " (column " ++ toString m.startColumn
        ++ ") through line " ++ toString m.stopLine ++ " (column " ++ toString (m.stopColumn - 1)
        ++ ")"
    "regex parse error:\n" ++ rule ++ "\n" ++ body ++ rule ++ "\n"
      ++ (if notes.isEmpty then "" else "\n".intercalate notes ++ "\n")
      ++ "error: " ++ e.fault.message
  else "regex parse error:\n" ++ body ++ "error: " ++ e.fault.message

end PatternError

end TypeCatalog.Pattern
