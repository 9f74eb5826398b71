import TypeCatalog.Pattern.Wide.Plan

/-!
# Searching by trial

`Plan.run` carries out a plan at a place and goes on with what comes after it. Where that leads
nowhere, the next way is tried. Each return to a way that was put off is counted, and the search is
given up when there are too many: `Plan.runFrom` then answers `exhausted`.
-/

set_option autoImplicit false

namespace TypeCatalog.Pattern

namespace Trial

/-- How far a search has come. -/
structure Frame where
  place : Nat
  /-- Where groups began and ended. The last entry of a group stands first. -/
  starts : List (Nat × Nat)
  stops : List (Nat × Nat)
deriving Inhabited

/-- How a search ends. The number tells how many returns are left. -/
inductive Outcome where
  | found (f : Frame) (left : Nat)
  | failed (left : Nat)
  | exhausted
deriving Inhabited

/-- What comes after a part of a plan. -/
abbrev Next := Frame → Nat → Outcome

namespace Outcome

/-- The outcome of one way or, where it leads nowhere, of another. -/
def orElse (first : Outcome) (second : Nat → Outcome) : Outcome :=
  match first with
  | failed 0 => exhausted
  | failed (n + 1) => second n
  | o => o

end Outcome

namespace Frame

/-- An entry of a group in place of older ones. -/
def put (group : Nat) (place : Option Nat) (es : List (Nat × Nat)) : List (Nat × Nat) :=
  let others := es.filter (·.1 ≠ group)
  place.elim others fun p => (group, p) :: others

/-- A group begins or ends at the place. -/
def start (group : Nat) (f : Frame) : Frame :=
  { f with starts := put group (some f.place) f.starts }

def stop (group : Nat) (f : Frame) : Frame := { f with stops := put group (some f.place) f.stops }

/-- The frame after an expression has matched as a whole. -/
def after (r : Regex) (t : Thread) (f : Frame) : Frame :=
  r.groups.foldl
    (fun f g =>
      let m := t.group? g
      { f with starts := put g (m.map (·.1)) f.starts, stops := put g (m.map (·.2)) f.stops })
    { f with place := t.place }

/-- The text that a group has matched. -/
def matched? (text : Subject) (group : Nat) (f : Frame) : Option (List Char) := do
  let a ← f.starts.lookup group
  let b ← f.stops.lookup group
  guard (a ≤ b)
  return (text.extract a b).toList

end Frame

/-- Turns of a loop, of which `count` have been taken. `turn` is a turn and what comes after it;
`checked` is where the last turn began that was not needed. -/
def turns (turn : Frame → Nat → Next → Outcome) (least : Nat) (most : Option Nat)
    (greedy guarded : Bool) (next : Next) :
    Nat → Nat → Option Nat → Frame → Nat → Outcome
  | 0, _, _, _, left => .failed left
  | fuel + 1, count, checked, f, left =>
    let again (checked : Option Nat) (left : Nat) : Outcome :=
      turn f left fun g left =>
        turns turn least most greedy guarded next fuel (count + 1) checked g left
    if guarded && count ≠ 0 && checked = some f.place then .failed left
    else if most = some count then next f left
    else if count < least then again checked left
    else if greedy then (again (some f.place) left).orElse (next f)
    else (next f left).orElse (again (some f.place))

end Trial

open Trial

namespace Plan

mutual

/-- Carries out a plan and what comes next. -/
def run (text : Subject) : Plan → Frame → Nat → Next → Outcome
  | whole r, f, left, next =>
    match r.prefer? text f.place with
    | some t => next (f.after r t) left
    | none => .failed left
  | anchor a, f, left, next => if text.meets a f.place then next f left else .failed left
  | sequence ps, f, left, next => runAll text ps f left next
  | choice ps, f, left, next => runAny text ps f left next
  | group i p, f, left, next =>
    p.run text (f.start i) left fun g left => next (g.stop i) left
  | optional greedy p, f, left, next =>
    if greedy then (p.run text f left next).orElse (next f)
    else (next f left).orElse fun left => p.run text f left next
  | loop least most greedy guarded p, f, left, next =>
    turns (fun f left next => p.run text f left next) least most greedy guarded next
      (most.getD least + text.size + 2) 0 none f left
  | look negated back p, f, left, next =>
    if negated then
      let inner : Outcome :=
        if f.place < back then .failed left
        else p.run text { f with place := f.place - back } left .found
      match inner with
      | .found _ left => .failed left
      | o => o.orElse (next f)
    else if f.place < back then .failed left
    else
      p.run text { f with place := f.place - back } left fun g left =>
        next { g with place := f.place } left
  | reference g, f, left, next =>
    match f.matched? text g with
    | some cs =>
      let stop := f.place + cs.length
      if (text.extract f.place stop).toList = cs then next { f with place := stop } left
      else .failed left
    | none => .failed left
  | entered g, f, left, next =>
    if g = 0 || (f.starts.lookup g).isSome then next f left else .failed left
  | atomic p, f, left, next =>
    match p.run text f left .found with
    | .found g left => next g left
    | o => o
  | searchStart, f, left, next => if f.place = 0 then next f left else .failed left
  | conditional c y n, f, left, next =>
    match c.run text f left .found with
    | .found g left => y.run text g left next
    | o => o.orElse fun left => n.run text f left next

/-- Carries out plans one after the other. -/
def runAll (text : Subject) : List Plan → Frame → Nat → Next → Outcome
  | [], f, left, next => next f left
  | p :: ps, f, left, next => p.run text f left fun g left => runAll text ps g left next

/-- Carries out the first plan that leads to an end. -/
def runAny (text : Subject) : List Plan → Frame → Nat → Next → Outcome
  | [], _, left, _ => .failed left
  | [p], f, left, next => p.run text f left next
  | p :: ps, f, left, next =>
    (p.run text f left next).orElse fun left => runAny text ps f left next

end

/-- How often a search may return to a way that was put off. -/
def returnLimit : Nat := 1000000

/-- Tries a plan at some places, the first first. -/
def runFrom (p : Plan) (text : Subject) : List Nat → Nat → Outcome
  | [], left => .failed left
  | place :: places, left =>
    (p.run text ⟨place, [], []⟩ left .found).orElse (runFrom p text places)

end Plan

end TypeCatalog.Pattern
