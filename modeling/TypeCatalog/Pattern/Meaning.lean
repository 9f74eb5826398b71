import TypeCatalog.Text.CaseFold
import TypeCatalog.Pattern.Property
import TypeCatalog.Pattern.Regex
import TypeCatalog.Pattern.Tree

/-!
# What the parts of a pattern match

`Tree.meaning` gives the expression that a tree stands for. Flags say how letters, marks of lines
and classes are read; they hold from where they are set to the end of the group around.

Where case is of no account, a set takes in the other case of its letters before its complement is
formed. Without Unicode a set is one of bytes, and since only texts are searched, it has to stay
within ASCII.
-/

set_option autoImplicit false

namespace TypeCatalog.Pattern

open Text (CharSet)

/-- The flags that a pattern sets. -/
structure Flags where
  ignoreCase : Bool
  multiLine : Bool
  dotAll : Bool
  /-- Whether repetitions prefer few unless they are marked. -/
  swapGreed : Bool
  /-- Whether letters and classes are those of ASCII. -/
  ascii : Bool
  /-- Whether a carriage return ends a line. -/
  returns : Bool
deriving DecidableEq, Inhabited

namespace Flags

def none : Flags := ⟨false, false, false, false, false, false⟩

/-- Flags after a list of letters; those behind the sign are taken away. -/
def apply (on : Bool) (f : Flags) : List Char → Flags
  | [] => f
  | '-' :: cs => apply false f cs
  | 'i' :: cs => apply on { f with ignoreCase := on } cs
  | 'm' :: cs => apply on { f with multiLine := on } cs
  | 's' :: cs => apply on { f with dotAll := on } cs
  | 'U' :: cs => apply on { f with swapGreed := on } cs
  | 'u' :: cs => apply on { f with ascii := !on } cs
  | 'R' :: cs => apply on { f with returns := on } cs
  | _ :: cs => apply on f cs

end Flags

/-- Refuses a part for a fault. -/
def refuse {α : Type} (fault : Fault) (span : Span) : Except PatternError α :=
  .error ⟨fault, span, none⟩

namespace Flags

/-- The set with the other case of its letters, where case is of no account. -/
def fold (f : Flags) (s : CharSet) : CharSet :=
  if f.ignoreCase then if f.ascii then s.withAsciiCase else s.withCase else s

/-- The set or its complement, which without Unicode would have bytes that are not in ASCII. -/
def negate (f : Flags) (span : Span) (negated : Bool) (s : CharSet) : Except PatternError CharSet :=
  if negated && f.ascii then refuse .invalidUtf8 span else .ok (s.complementIf negated)

/-- The character of a literal inside brackets. -/
def member (f : Flags) (l : Literal) : Except PatternError Nat :=
  if f.ascii && 0x80 ≤ l.char.toNat then
    refuse (if l.isByte then .invalidUtf8 else .unicodeNotAllowed) l.span
  else .ok l.char.toNat

/-- The set of a property. -/
def property (f : Flags) (span : Span) (negated : Bool) (name : String) :
    Except PatternError CharSet :=
  if f.ascii then refuse .unicodeNotAllowed span
  else
    match Property.lookup name with
    | .ok s => .ok ((f.fold s).complementIf negated)
    | .error .unknownProperty => refuse .unknownProperty span
    | .error .unknownValue => refuse .unknownPropertyValue span

/-- The set of a letter. It has both cases of a letter or none. -/
def letter (f : Flags) (span : Span) (negated : Bool) (c : LetterClass) :
    Except PatternError CharSet :=
  f.negate span negated (if f.ascii then c.asciiSet else c.set)

end Flags

namespace SetOp

/-- Combines two sets. -/
def apply : SetOp → CharSet → CharSet → CharSet
  | inter => .inter
  | diff => .diff
  | symmDiff => .symmDiff

end SetOp

namespace ClassTree

mutual

/-- The set of what stands inside brackets. -/
def meaning (f : Flags) : ClassTree → Except PatternError CharSet
  | empty _ => .ok .empty
  | literal l => do
    let n ← f.member l
    return .range n n
  | range _ first last => do
    let a ← f.member first
    let b ← f.member last
    return .range a b
  | ascii span negated s => f.negate span negated (f.fold s)
  | property span negated name => f.property span negated name
  | letter span negated c => f.letter span negated c
  | bracket span negated t => do
    let s ← t.meaning f
    f.negate span negated (f.fold s)
  | union _ ts => unionMeaning f ts
  | op _ kind l r => do
    let a ← l.meaning f
    let b ← r.meaning f
    return kind.apply (f.fold a) (f.fold b)

def unionMeaning (f : Flags) : List ClassTree → Except PatternError CharSet
  | [] => .ok .empty
  | t :: ts => do
    let s ← t.meaning f
    let u ← unionMeaning f ts
    return s.union u

end

end ClassTree

namespace Assertion

/-- The condition that is meant under some flags. -/
def meaning (f : Flags) : Assertion → Anchor
  | startLine => if f.multiLine then .lineStart f.returns else .textStart
  | endLine => if f.multiLine then .lineEnd f.returns else .textEnd
  | startText => .textStart
  | endText => .textEnd
  | wordBoundary => .word f.ascii .boundary
  | notWordBoundary => .word f.ascii .notBoundary
  | wordStart => .word f.ascii .start
  | wordEnd => .word f.ascii .stop
  | wordStartHalf => .word f.ascii .startHalf
  | wordEndHalf => .word f.ascii .stopHalf

end Assertion

namespace Tree

/-- What is known while a tree is read: the flags and the number of groups so far. -/
structure Context where
  flags : Flags
  groups : Nat
deriving DecidableEq, Inhabited

abbrev M := StateT Context (Except PatternError)

/-- A set that depends on the flags. -/
def setOf (s : Flags → Except PatternError CharSet) : M Regex := do
  return .set (← s (← get).flags)

/-- A character that stands for itself. -/
def literalMeaning (l : Literal) : M Regex := setOf fun f =>
  if f.ascii && l.isByte && 0x80 ≤ l.char.toNat then refuse .invalidUtf8 l.span
  else .ok (f.fold (.char l.char))

/-- Any character, but for what ends a line. -/
def dotMeaning (span : Span) : M Regex := setOf fun f =>
  if f.ascii then refuse .invalidUtf8 span
  else .ok <|
    if f.dotAll then .all else .complement (if f.returns then .parse "A D" else .parse "A")

mutual

/-- The expression of a tree. -/
def meaning : Tree → M Regex
  | empty _ => return .empty
  | flags _ letters => do
    modify fun c => { c with flags := c.flags.apply true letters }
    return .empty
  | literal l => literalMeaning l
  | dot span => dotMeaning span
  | assertion _ a => return .anchor (a.meaning (← get).flags)
  | property span negated name => setOf fun f => f.property span negated name
  | letter span negated c => setOf fun f => f.letter span negated c
  | bracket span negated t => setOf fun f => do
    let s ← t.meaning f
    f.negate span negated (f.fold s)
  | repeated _ least most greedy t => do
    let r ← t.meaning
    return .repetition least most (greedy != (← get).flags.swapGreed) r
  | group _ .capture t => do
    let outer := (← get).flags
    let number := (← get).groups + 1
    modify fun c => { c with groups := number }
    let r ← t.meaning
    modify fun c => { c with flags := outer }
    return .capture number r
  | group _ (.plain letters) t => do
    let outer := (← get).flags
    modify fun c => { c with flags := c.flags.apply true letters }
    let r ← t.meaning
    modify fun c => { c with flags := outer }
    return r
  | alternation _ ts => return .altAll (← meanings ts)
  | concat _ ts => return .seqAll (← meanings ts)

def meanings : List Tree → M (List Regex)
  | [] => return []
  | t :: ts => do
    let r ← t.meaning
    return r :: (← meanings ts)

end

/-- The expression of a whole pattern that begins under some flags. -/
def regex (t : Tree) (f : Flags) : Except PatternError Regex := do
  let (r, _) ← t.meaning.run ⟨f, 0⟩
  return r

end Tree

end TypeCatalog.Pattern
