import TypeCatalog.Pattern.Meaning
import TypeCatalog.Pattern.Parser
import TypeCatalog.Pattern.Size

/-!
# The strict dialect

The patterns that a definition may declare: classes are those of Unicode, nothing looks around or
back, and a pattern may not grow too large.
-/

set_option autoImplicit false

namespace TypeCatalog.Pattern.Strict

/-- The expression of a pattern that begins under some flags. -/
def regex (flags : Flags) (pattern : String) : Except PatternError Regex := do
  (← parse pattern).regex flags

/-- Whether a pattern is one of the dialect; what is wrong when it is not. -/
def check (pattern : String) : Except String Unit :=
  match regex .none pattern with
  | .error e => .error (e.report pattern)
  | .ok r =>
    if r.fits then .ok ()
    else .error ("Compiled regex exceeds size limit of " ++ toString Regex.sizeLimit ++ " bytes.")

end TypeCatalog.Pattern.Strict
