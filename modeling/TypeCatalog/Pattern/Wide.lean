import TypeCatalog.Pattern.Regex

/-!
# The wide dialect

Besides what regular expressions are made of, a pattern of the wide dialect can look around, refer
to what a group has matched, and forbid to go back into a part. `Wide.isHard` tells parts that need
such means from those that are regular expressions, which `Wide.regex?` gives.
-/

set_option autoImplicit false

namespace TypeCatalog.Pattern

/-- A pattern of the wide dialect. -/
inductive Wide where
  /-- The empty text. -/
  | empty
  /-- What an expression matches. It stands for a single character. -/
  | plain (r : Regex)
  | anchor (a : Anchor)
  | concat (es : List Wide)
  | alt (es : List Wide)
  | group (number : Nat) (e : Wide)
  /-- Looks ahead or behind, for a match or for none. -/
  | look (behind negated : Bool) (e : Wide)
  | repeated (least : Nat) (most : Option Nat) (greedy : Bool) (e : Wide)
  /-- What a group has matched, once more. -/
  | reference (group : Nat)
  /-- The first match only. -/
  | atomic (e : Wide)
  /-- Where the match is said to begin; the match itself stays the same. -/
  | keepOut
  /-- The place where the search began. -/
  | searchStart
  /-- Whether a group has been entered. -/
  | entered (group : Nat)
  | conditional (condition yes no : Wide)
deriving Inhabited

namespace Wide

/-- Whether a pattern is the empty one. -/
def isEmpty : Wide → Bool
  | empty => true
  | _ => false

/-- Whether a pattern may be repeated: conditions on the place may not. -/
def isRepeatable : Wide → Bool
  | empty => false
  | anchor _ => false
  | look .. => false
  | _ => true

mutual

/-- The least number of characters of a match, as far as it shows. -/
def minSize : Wide → Nat
  | plain _ => 1
  | concat es => sumSize es
  | alt es => (leastSize es).getD 0
  | group _ e => e.minSize
  | repeated least _ _ e => e.minSize * least
  | atomic e => e.minSize
  | conditional c y n => c.minSize + min y.minSize n.minSize
  | _ => 0

def sumSize : List Wide → Nat
  | [] => 0
  | e :: es => e.minSize + sumSize es

def leastSize : List Wide → Option Nat
  | [] => none
  | e :: es => some ((leastSize es).elim e.minSize (min e.minSize))

end

mutual

/-- Whether all matches have the same number of characters, as far as it shows. -/
def isFixed : Wide → Bool
  | concat es => allFixed es
  | alt es => allFixed es && sameSizes es
  | group _ e => e.isFixed
  | repeated least most _ e => e.isFixed && most = some least
  | reference _ => false
  | atomic e => e.isFixed
  | conditional c y n =>
    c.isFixed && y.isFixed && n.isFixed && c.minSize + y.minSize = n.minSize
  | _ => true

def allFixed : List Wide → Bool
  | [] => true
  | e :: es => e.isFixed && allFixed es

/-- Whether the least numbers of characters of some patterns are the same. -/
def sameSizes : List Wide → Bool
  | e :: f :: es => e.minSize = f.minSize && sameSizes (f :: es)
  | _ => true

end

mutual

/-- Whether a pattern needs more than a regular expression. A group does when something refers to
it, and so does an edge of a word. -/
def isHard (referred : List Nat) : Wide → Bool
  | empty => false
  | plain _ => false
  | anchor (.word ..) => true
  | anchor _ => false
  | concat es => anyHard referred es
  | alt es => anyHard referred es
  | group i e => referred.contains i || e.isHard referred
  | repeated _ _ _ e => e.isHard referred
  | _ => true

def anyHard (referred : List Nat) : List Wide → Bool
  | [] => false
  | e :: es => e.isHard referred || anyHard referred es

end

/-- The largest count of a repetition. -/
def maxCount : Nat := 0xFFFFFFFF

/-- A choice among expressions, some of which may be left out because they were empty. -/
def choice (hasEmpty : Bool) (rs : List Regex) : Regex :=
  if rs.isEmpty then .empty
  else if hasEmpty then .repetition 0 (some 1) true (.altAll rs)
  else .altAll rs

mutual

/-- The regular expression that a pattern is. Empty branches are tried last, wherever they stand. -/
def regex? : Wide → Option Regex
  | empty => some .empty
  | plain r => some r
  | anchor a => some (.anchor a)
  | concat es => return .seqAll (← regexes? es)
  | alt es => return choice (es.any isEmpty) (← branches? es)
  | group i e => return .capture i (← e.regex?)
  | repeated least most greedy e => do
    guard (least ≤ maxCount && most.all fun m => least ≤ m && m ≤ maxCount)
    return .repetition least most greedy (← e.regex?)
  | _ => none

def regexes? : List Wide → Option (List Regex)
  | [] => some []
  | e :: es => do return (← e.regex?) :: (← regexes? es)

/-- The expressions of the branches that are not empty. -/
def branches? : List Wide → Option (List Regex)
  | [] => some []
  | e :: es => do
    let r ← e.regex?
    let rs ← branches? es
    return if e.isEmpty then rs else r :: rs

end

end Wide

end TypeCatalog.Pattern
