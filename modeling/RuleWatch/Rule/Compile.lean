import RuleWatch.Rule.Detector
import RuleWatch.Text.Quoted
import RuleWatch.Text.Utf8

/-!
Compiling rules. Rules of an unknown kind are passed over, so that new kinds can
be published before every reader knows them; every other failure fails the whole
set.
-/

namespace RuleWatch

open Text Pattern

/-- Why rules do not compile. -/
inductive CompileError
  | unknownKind (name kind : String)
  | malformed (name message : String)
  | batch (failures : List CompileError)
  deriving Repr

namespace CompileError

mutual
def message : CompileError → String
  | .unknownKind name kind =>
      "rule " ++ Quoted.quote name ++ ": unknown rule type " ++
        Quoted.quote kind
  | .malformed name text => "rule " ++ Quoted.quote name ++ ": " ++ text
  | .batch failures => "\n".intercalate (messages failures)

def messages : List CompileError → List String
  | [] => []
  | e :: es => e.message :: messages es
end

def isUnknownKind : CompileError → Bool
  | .unknownKind _ _ => true
  | _ => false

end CompileError

def RuleKind.compile (kind : RuleKind) (r : Rule) :
    Except CompileError Detector :=
  if r.pattern.isEmpty then .error (.malformed r.name "empty pattern")
  else match kind with
    | .contains => .ok (.contains (encode r.pattern))
    | .regex =>
        match Shape.ofPattern r.pattern with
        | .ok shape => .ok (.regex r.pattern shape)
        | .error e => .error <| .malformed r.name <|
            Quoted.quote r.pattern ++ " regexp compile: " ++ e.message r.pattern

def Rule.compile (r : Rule) : Except CompileError Detector :=
  match RuleKind.ofTag? r.kind with
  | none => .error (.unknownKind r.name r.kind)
  | some kind => kind.compile r

/-- What has come of the rules seen so far. -/
structure Batch where
  detectors : Array Detector := #[]
  failures : Array CompileError := #[]

namespace Batch

def add (b : Batch) (r : Rule) : Batch :=
  match r.compile with
  | .ok d => { b with detectors := b.detectors.push d }
  | .error e =>
      if e.isUnknownKind then b
      else { b with failures := b.failures.push e }

/-- All detectors, or all that is wrong. -/
def result (b : Batch) : Except CompileError (List Detector) :=
  if b.failures.isEmpty then .ok b.detectors.toList
  else .error (.batch b.failures.toList)

end Batch

namespace RuleSet

/-- The detectors of all rules of known kinds, in the order of the rules, or
all that is wrong with them. -/
def compile (rs : RuleSet) : Except CompileError (List Detector) :=
  (rs.foldl Batch.add {}).result

/-- The rules that compiling passes over. -/
def skipped (rs : RuleSet) : List Rule :=
  rs.filter fun r => (RuleKind.ofTag? r.kind).isNone

end RuleSet

end RuleWatch
