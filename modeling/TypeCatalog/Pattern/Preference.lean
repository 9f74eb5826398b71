import Std.Data.HashSet
import TypeCatalog.Pattern.Regex

/-!
# Preferred matches

Of all matches that start at a place one is preferred: an earlier branch to a later one, and more
repetitions to fewer where the repetition is greedy. `Regex.prefer?` gives its end and what its
groups matched.

A `Thread` is a match up to a place. Threads are kept in the order of preference; of those that have
come to the same place only the first can ever be preferred, so the others are dropped.
-/

set_option autoImplicit false

namespace TypeCatalog.Pattern

/-- A match up to a place. -/
structure Thread where
  place : Nat
  /-- Groups that have been opened: their number, start and end. The last opened stands first. -/
  groups : List (Nat × Nat × Option Nat)
deriving Inhabited

namespace Thread

/-- The first thread of each place. -/
def distinct (seen : Nat) : List Thread → List Thread
  | [] => []
  | t :: ts =>
    if seen.testBit t.place then distinct seen ts
    else t :: distinct (seen ||| (1 <<< t.place)) ts

/-- A group begins. -/
def begin (group : Nat) (t : Thread) : Thread :=
  { t with groups := (group, t.place, none) :: t.groups }

/-- The group that was begun last and is still open ends. -/
def finish (group : Nat) (t : Thread) : Thread :=
  let rec close : List (Nat × Nat × Option Nat) → List (Nat × Nat × Option Nat)
    | [] => []
    | (g, start, none) :: gs =>
      if g = group then (g, start, some t.place) :: gs else (g, start, none) :: close gs
    | g :: gs => g :: close gs
  { t with groups := close t.groups }

/-- What a group matched last. -/
def group? (group : Nat) (t : Thread) : Option (Nat × Nat) :=
  match t.groups.find? fun (g, _, stop) => g = group && stop.isSome with
  | some (_, start, some stop) => some (start, stop)
  | _ => none

end Thread

namespace Regex

/-- A number of steps taken one after the other. -/
def threadTimes (step : List Thread → List Thread) : Nat → List Thread → List Thread
  | 0, ts => ts
  | n + 1, ts => if ts.isEmpty then [] else threadTimes step n (step ts)

/-- The threads after any number of steps, or after at most `left` steps. No place is left twice
with the same number of steps to go: that could bring nothing new. -/
def threadLoop (step : Thread → List Thread) (greedy : Bool) :
    Nat → Option Nat → Thread → StateM (Std.HashSet (Nat × Nat)) (List Thread)
  | 0, _, t => return [t]
  | fuel + 1, left, t => do
    let key := (t.place, left.getD 0)
    if left = some 0 || (← get).contains key then return [t]
    modify (·.insert key)
    let after ← (step t).foldlM
      (fun ts u => return ts ++ (← threadLoop step greedy fuel (left.map (· - 1)) u)) []
    return if greedy then after ++ [t] else t :: after

/-- The threads after a match, in the order of preference. -/
def threads (text : Subject) : Regex → List Thread → List Thread
  | empty, ts => ts
  | set s, ts => ts.filterMap fun t => (text.advance? s t.place).map fun p => { t with place := p }
  | anchor a, ts => ts.filter fun t => text.meets a t.place
  | seq r s, ts => s.threads text (r.threads text ts)
  | alt r s, ts =>
    Thread.distinct 0 (ts.flatMap fun t => r.threads text [t] ++ s.threads text [t])
  | repeated least most greedy r, ts =>
    let first := threadTimes (fun us => r.threads text us) least ts
    let left := most.map (· - least)
    let fuel := left.getD (text.size + 1) + 1
    let all := first.foldlM
      (fun us t => return us ++ (← threadLoop (fun u => r.threads text [u]) greedy fuel left t)) []
    Thread.distinct 0 (all.run {}).1
  | capture i r, ts => (r.threads text (ts.map (Thread.begin i))).map (Thread.finish i)

/-- The preferred match that starts at a place. -/
def prefer? (r : Regex) (text : Subject) (place : Nat) : Option Thread :=
  (r.threads text [⟨place, []⟩]).head?

end Regex

end TypeCatalog.Pattern
