/-!
Detection rules as they are published and stored. The kind of a rule is an open
text: rules of kinds that are not known here are kept as they are, and only
compiling passes them over.
-/

namespace RuleWatch

/-- The ways of detecting that are known. -/
inductive RuleKind
  | contains
  | regex
  deriving DecidableEq, Repr

/-- The kind named by a tag, which must be spelled exactly. -/
def RuleKind.ofTag? (tag : String) : Option RuleKind :=
  if tag = "contains" then some .contains
  else if tag = "regex" then some .regex
  else none

/-- One published rule. -/
structure Rule where
  name : String
  kind : String
  pattern : String
  deriving DecidableEq, Repr, Inhabited

/-- Rules in the order in which they are published. -/
abbrev RuleSet := List Rule

end RuleWatch
