import RuleWatch.Pattern.Search
import RuleWatch.Pattern.Size

/-!
From the text of a pattern to its meaning.
-/

namespace RuleWatch.Pattern

/-- Why a text is not accepted as a pattern. -/
inductive PatternError
  | faulty (fault : Fault)
  | tooLarge
  deriving DecidableEq, Repr

def PatternError.message (pattern : String) : PatternError → String
  | .faulty f => f.render pattern
  | .tooLarge =>
      "Compiled regex exceeds size limit of " ++ toString sizeLimit ++ " bytes."

def Shape.ofPattern (pattern : String) : Except PatternError Shape :=
  match (Tree.ofPattern pattern.toList).bind fun t => t.shape Mode.initial with
  | .error f => .error (.faulty f)
  | .ok (s, _) => if s.isTooLarge then .error .tooLarge else .ok s

end RuleWatch.Pattern
