import RuleWatch.Time.Span

/-!
The wait before the first refresh. A refresh is due one interval after the rules
were last updated.
-/

namespace RuleWatch

/-- The longest interval that instants can be moved by, in nanoseconds: 2⁶³ - 1
milliseconds. -/
def longestStep : Nat := (UInt64.size / 2 - 1) * 1000000

/-- The nanoseconds until the next refresh is due, none if it is overdue. When
no instant is one interval after the last update, the whole interval is
waited. -/
def initialDelay (lastUpdated now : Instant) (interval : Nat) : Nat :=
  let due := lastUpdated.later interval
  if longestStep < interval ∨ Instant.lastSecond < due.seconds then interval
  else (due.since now).toNat

/-- The same wait, computed in words: the interval becomes a span, the last
update is moved by it, and what is left of the way there is waited. -/
def delayInWords (lastUpdated now : Instant) (interval : Nat) :
    Except OutOfRange Nat := do
  match ← Span.ofInterval interval with
  | none => return interval
  | some step =>
      match ← lastUpdated.forward step with
      | none => return interval
      | some due => (← due.minus now).wait

end RuleWatch
