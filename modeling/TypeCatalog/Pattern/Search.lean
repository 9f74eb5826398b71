import TypeCatalog.Pattern.Spelling
import TypeCatalog.Pattern.Wide.Parser
import TypeCatalog.Pattern.Wide.Trial

/-!
# The patterns of schemas

The patterns of a schema search a text anywhere. They are spelled in the wide dialect; one that is a
regular expression is searched as such, and any other by trial.
-/

set_option autoImplicit false

namespace TypeCatalog.Pattern

/-- What comes of a search. -/
inductive Found where
  | yes
  | no
  /-- The search was given up. -/
  | exhausted
deriving DecidableEq, Inhabited

/-- A pattern that can be searched for. -/
inductive Search where
  | plain (r : Regex)
  | trial (p : Plan)
deriving Inhabited

namespace Search

/-- Whether a text is a pattern in form. It may still name a property that does not exist, or be
more than can be searched for. -/
def isPattern (pattern : String) : Bool := (spell? pattern).isSome

/-- The search that a pattern stands for; none where it is no pattern. -/
def compile? (pattern : String) : Option Search := do
  let (e, referred) ← Wide.parse? (← spell? pattern)
  if e.isHard referred then return trial (← e.plan? referred true)
  let r ← e.regex?
  guard r.fits
  return plain r

/-- Searches a text. -/
def find (s : Search) (text : String) : Found :=
  match s with
  | plain r => if r.search text then .yes else .no
  | trial p =>
    let subject : Subject := text.toList.toArray
    match p.runFrom subject subject.places Plan.returnLimit with
    | .found .. => .yes
    | .failed _ => .no
    | .exhausted => .exhausted

/-- Whether a text is known to match. -/
def matchesText (s : Search) (text : String) : Bool := s.find text = .yes

end Search

end TypeCatalog.Pattern
