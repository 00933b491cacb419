import RuleWatch.Pattern.Compile
import RuleWatch.Rule.Basic

/-!
Detectors: what a rule is compiled to. A detector answers for any bytes whether
it finds something in them.
-/

namespace RuleWatch

open Pattern

/-- Whether `pattern` stands somewhere in `content`. -/
def occursIn (pattern : List UInt8) : List UInt8 → Bool
  | [] => pattern.isEmpty
  | x :: xs => pattern.isPrefixOf (x :: xs) || occursIn pattern xs

inductive Detector
  | contains (pattern : List UInt8)
  | regex (source : String) (shape : Shape)

namespace Detector

def kind : Detector → RuleKind
  | .contains _ => .contains
  | .regex _ _ => .regex

def detect : Detector → List UInt8 → Bool
  | .contains pattern, content => occursIn pattern content
  | .regex _ shape, content => shape.occursIn content

def detectAny (ds : List Detector) (content : List UInt8) : Bool :=
  ds.any (·.detect content)

end Detector

end RuleWatch
