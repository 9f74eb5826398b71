import TypeCatalog.Pattern.Fault
import TypeCatalog.Pattern.NamedSet

/-!
# The parts of a pattern

A `Tree` is a pattern as it is written: what contains what, and where each part stands. What the
parts match is said elsewhere. `Tree.tooDeep?` finds a part that stands inside too many others.
-/

set_option autoImplicit false

namespace TypeCatalog.Pattern

/-- A character that stands for itself. -/
structure Literal where
  span : Span
  char : Char
  /-- Whether it is written as a byte, by two hexadecimal digits. -/
  isByte : Bool
deriving DecidableEq, Inhabited

/-- A condition on a place as it is written; what the two marks of a line mean depends on flags. -/
inductive Assertion where
  | startLine
  | endLine
  | startText
  | endText
  | wordBoundary
  | notWordBoundary
  | wordStart
  | wordEnd
  | wordStartHalf
  | wordEndHalf
deriving DecidableEq, Inhabited

/-- What combines two sets inside brackets. -/
inductive SetOp where
  | inter
  | diff
  | symmDiff
deriving DecidableEq, Inhabited

/-- What stands inside brackets. -/
inductive ClassTree where
  | empty (span : Span)
  | literal (l : Literal)
  | range (span : Span) (first last : Literal)
  | ascii (span : Span) (negated : Bool) (set : Text.CharSet)
  | property (span : Span) (negated : Bool) (name : String)
  | letter (span : Span) (negated : Bool) (c : LetterClass)
  | bracket (span : Span) (negated : Bool) (inner : ClassTree)
  | union (span : Span) (items : List ClassTree)
  | op (span : Span) (kind : SetOp) (left right : ClassTree)
deriving Inhabited

/-- What a group is for. -/
inductive GroupKind where
  /-- What it matches is remembered. -/
  | capture
  /-- It holds parts together and sets flags, given by their letters. -/
  | plain (flags : List Char)
deriving DecidableEq, Inhabited

/-- A pattern or a part of one. -/
inductive Tree where
  | empty (span : Span)
  /-- Flags for what follows in the group around, by their letters. -/
  | flags (span : Span) (letters : List Char)
  | literal (l : Literal)
  | dot (span : Span)
  | assertion (span : Span) (kind : Assertion)
  | property (span : Span) (negated : Bool) (name : String)
  | letter (span : Span) (negated : Bool) (c : LetterClass)
  | bracket (span : Span) (negated : Bool) (inner : ClassTree)
  | repeated (span : Span) (least : Nat) (most : Option Nat) (greedy : Bool) (sub : Tree)
  | group (span : Span) (kind : GroupKind) (sub : Tree)
  | alternation (span : Span) (branches : List Tree)
  | concat (span : Span) (items : List Tree)
deriving Inhabited

namespace ClassTree

/-- Where a part stands. -/
def span : ClassTree → Span
  | empty s => s
  | literal l => l.span
  | range s .. => s
  | ascii s .. => s
  | property s .. => s
  | letter s .. => s
  | bracket s .. => s
  | union s .. => s
  | op s .. => s

/-- The part that some items make. -/
def ofItems (items : List ClassTree) (here : Nat) : ClassTree :=
  match items with
  | [] => empty ⟨here, here⟩
  | [t] => t
  | t :: ts => union ⟨t.span.start, ((t :: ts).getLastD t).span.stop⟩ (t :: ts)

mutual

/-- The first part that stands inside too many others, when there is room for `room` of them. -/
def tooDeep? (room : Nat) : ClassTree → Option Span
  | bracket s _ t =>
    match room with
    | 0 => some s
    | n + 1 => t.tooDeep? n
  | union s ts =>
    match room with
    | 0 => some s
    | n + 1 => anyTooDeep? n ts
  | op s _ l r =>
    match room with
    | 0 => some s
    | n + 1 => l.tooDeep? n <|> r.tooDeep? n
  | _ => none

def anyTooDeep? (room : Nat) : List ClassTree → Option Span
  | [] => none
  | t :: ts => t.tooDeep? room <|> anyTooDeep? room ts

end

end ClassTree

namespace Tree

/-- Where a part stands. -/
def span : Tree → Span
  | empty s => s
  | flags s _ => s
  | literal l => l.span
  | dot s => s
  | assertion s _ => s
  | property s .. => s
  | letter s .. => s
  | bracket s .. => s
  | repeated s .. => s
  | group s .. => s
  | alternation s _ => s
  | concat s _ => s

/-- The part that some items make one after the other. -/
def ofItems (span : Span) : List Tree → Tree
  | [] => empty span
  | [t] => t
  | ts => concat span ts

/-- The part that some branches make. -/
def ofBranches (span : Span) : List Tree → Tree
  | [] => empty span
  | [t] => t
  | ts => alternation span ts

mutual

/-- The first part that stands inside too many others, when there is room for `room` of them.
Parts that contain no others take no room. -/
def tooDeep? (room : Nat) : Tree → Option Span
  | bracket s _ t =>
    match room with
    | 0 => some s
    | n + 1 => t.tooDeep? n
  | repeated s _ _ _ t =>
    match room with
    | 0 => some s
    | n + 1 => t.tooDeep? n
  | group s _ t =>
    match room with
    | 0 => some s
    | n + 1 => t.tooDeep? n
  | alternation s ts =>
    match room with
    | 0 => some s
    | n + 1 => anyTooDeep? n ts
  | concat s ts =>
    match room with
    | 0 => some s
    | n + 1 => anyTooDeep? n ts
  | _ => none

def anyTooDeep? (room : Nat) : List Tree → Option Span
  | [] => none
  | t :: ts => t.tooDeep? room <|> anyTooDeep? room ts

end

end Tree

end TypeCatalog.Pattern
