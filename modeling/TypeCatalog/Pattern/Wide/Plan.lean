import TypeCatalog.Pattern.Preference
import TypeCatalog.Pattern.Size
import TypeCatalog.Pattern.Wide

/-!
# Plans of a search

A pattern that is no regular expression is searched by trial: a `Plan` says what is tried in which
order. Parts that are regular expressions are matched as a whole, and what they match is not tried
again otherwise; in a sequence this holds of its beginning and of its end only.

`Wide.plan?` fails where a part looks back over an unknown number of characters, or where a regular
expression is too large.
-/

set_option autoImplicit false

namespace TypeCatalog.Pattern

/-- How a pattern is searched at a place. -/
inductive Plan where
  /-- The preferred match of an expression. -/
  | whole (r : Regex)
  | anchor (a : Anchor)
  | sequence (ps : List Plan)
  /-- One plan or, where that leads nowhere, one of those after it. -/
  | choice (ps : List Plan)
  | group (number : Nat) (p : Plan)
  /-- Once or not at all. -/
  | optional (greedy : Bool) (p : Plan)
  /-- A number of times. A guarded loop does not go on where a turn has matched the empty text. -/
  | loop (least : Nat) (most : Option Nat) (greedy guarded : Bool) (p : Plan)
  /-- Whether the plan can or cannot be carried out some characters before the place. -/
  | look (negated : Bool) (back : Nat) (p : Plan)
  | reference (group : Nat)
  | entered (group : Nat)
  /-- The first way only in which the plan can be carried out. -/
  | atomic (p : Plan)
  | searchStart
  | conditional (condition yes no : Plan)
deriving Inhabited

namespace Plan

/-- The empty text. -/
def nothing : Plan := sequence []

/-- The plan to match an expression as a whole. -/
def ofRegex? (r : Regex) : Option Plan := if r.fits then some (whole r) else none

end Plan

namespace Wide

/-- How many items at the front of a sequence are matched together. -/
def frontCount (referred : List Nat) (es : List Wide) : Nat :=
  (es.takeWhile fun e => e.isFixed && !e.isHard referred).length

/-- How many items at the end of a sequence, behind those at the front, are matched together. Where
the sequence may be tried again, they have to be of a fixed size. -/
def backCount (referred : List Nat) (hard : Bool) (es : List Wide) : Nat :=
  ((es.drop (frontCount referred es)).reverse.takeWhile fun e =>
    (e.isFixed || !hard) && !e.isHard referred).length

/-- The plan to match some items together; none where there are none. -/
def together? (es : List Wide) : Option (List Plan) := do
  if es.isEmpty then return []
  return [← Plan.ofRegex? (.seqAll (← regexes? es))]

/-- The plan of a part that is an expression and need not be tried again. -/
def easyPlan? (referred : List Nat) (hard : Bool) (e : Wide) : Option (Option Plan) :=
  if hard || e.isHard referred then none else some (e.regex?.bind Plan.ofRegex?)

/-- The plan of a look around: what is to be found, and how far back that begins. -/
def lookPlan? (behind negated : Bool) (e : Wide) (p : Plan) : Option Plan := do
  guard (!behind || e.isFixed)
  return .look negated (if behind then e.minSize else 0) p

mutual

/-- The plan of a part. `hard` says that the part has to be tried in all ways. -/
def plan? (referred : List Nat) (hard : Bool) : Wide → Option Plan
  | empty => some .nothing
  | plain r => Plan.ofRegex? r
  | anchor a => some (.anchor a)
  | concat es =>
    (easyPlan? referred hard (concat es)).getD do
      let front := frontCount referred es
      let back := backCount referred hard es
      let first ← together? (es.take front)
      let middle ← middlePlans? referred front (es.length - front - back) es
      let last ← together? (es.drop (es.length - back))
      return .sequence (first ++ middle ++ last)
  | alt es =>
    (easyPlan? referred hard (alt es)).getD do return .choice (← plans? referred hard es)
  | group i e =>
    (easyPlan? referred hard (group i e)).getD do return .group i (← e.plan? referred hard)
  | repeated least most greedy e =>
    (easyPlan? referred hard (repeated least most greedy e)).getD do
      if least = 0 && most = some 1 then return .optional greedy (← e.plan? referred hard)
      let p ← e.plan? referred (hard || e.isHard referred)
      return .loop least most greedy (most.isNone && e.minSize = 0) p
  | look behind negated (alt es) =>
    if behind && !(alt es).isFixed then do
      let ps ← lookPlans? referred negated es
      return if negated then .sequence ps else .choice ps
    else do
      let p ← (easyPlan? referred false (alt es)).getD do
        return .choice (← plans? referred false es)
      lookPlan? behind negated (alt es) p
  | look behind negated e => do lookPlan? behind negated e (← e.plan? referred false)
  | reference g => some (.reference g)
  | atomic e => do return .atomic (← e.plan? referred false)
  | keepOut => some .nothing
  | searchStart => some .searchStart
  | entered g => some (.entered g)
  | conditional c y n => do
    return .conditional (← c.plan? referred hard) (← y.plan? referred hard)
      (← n.plan? referred hard)

/-- The plans of some parts. -/
def plans? (referred : List Nat) (hard : Bool) : List Wide → Option (List Plan)
  | [] => some []
  | e :: es => do return (← e.plan? referred hard) :: (← plans? referred hard es)

/-- The plans of some of the items of a sequence, behind those that are passed over. -/
def middlePlans? (referred : List Nat) : Nat → Nat → List Wide → Option (List Plan)
  | _, _, [] => some []
  | 0, 0, _ => some []
  | 0, count + 1, e :: es => do
    return (← e.plan? referred true) :: (← middlePlans? referred 0 count es)
  | skip + 1, count, _ :: es => middlePlans? referred skip count es

/-- The plans to look back for one of some branches each. -/
def lookPlans? (referred : List Nat) (negated : Bool) : List Wide → Option (List Plan)
  | [] => some []
  | e :: es => do
    let p ← lookPlan? true negated e (← e.plan? referred false)
    return p :: (← lookPlans? referred negated es)

end

end Wide

end TypeCatalog.Pattern
