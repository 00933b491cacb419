import RuleWatch.Time.Instant

/-!
Spans of time, and the arithmetic of instants as it is done in words of a few
bits. Where a number does not fit in its word, or a span is longer than spans
can be, a step says so.
-/

namespace RuleWatch

/-- What a step cannot keep. -/
inductive OutOfRange
  /-- A number that does not fit in its word. -/
  | word (bits : Nat) (value : Int)
  /-- A span that there is not. -/
  | span (seconds nanos : Int)
  deriving DecidableEq, Repr

/-- Keeps a number in a word with a sign. -/
def signed (bits : Nat) (n : Int) : Except OutOfRange Int :=
  if -(1 <<< (bits - 1) : Nat) ≤ n ∧ n < (1 <<< (bits - 1) : Nat) then .ok n
  else .error (.word bits n)

/-- Keeps a number in a word without a sign. -/
def unsigned (bits : Nat) (n : Int) : Except OutOfRange Nat :=
  if 0 ≤ n ∧ n < (1 <<< bits : Nat) then .ok n.toNat else .error (.word bits n)

/-- A span of time: whole seconds, counted down to the one before where it goes
back, and the nanoseconds above them. -/
structure Span where
  seconds : Int
  nanos : Int
  deriving DecidableEq, Repr

namespace Span

/-- The longest span in nanoseconds: 2⁶³ - 1 milliseconds. -/
def longest : Int := 9223372036854775807000000

/-- The span of some seconds and nanoseconds, if it is not longer than the
longest one in either direction. -/
def make? (seconds nanos : Int) : Option Span :=
  let n := seconds * 1000000000 + nanos
  if 0 ≤ nanos ∧ nanos < 1000000000 ∧ -longest ≤ n ∧ n ≤ longest then
    some ⟨seconds, nanos⟩
  else none

/-- The same where there has to be one. -/
def make (seconds nanos : Int) : Except OutOfRange Span :=
  match make? seconds nanos with
  | some s => .ok s
  | none => .error (.span seconds nanos)

/-- The span of an interval in nanoseconds. -/
def ofInterval (interval : Nat) : Except OutOfRange (Option Span) := do
  let seconds ← unsigned 64 (interval / 1000000000 : Nat)
  let nanos ← unsigned 32 (interval % 1000000000 : Nat)
  return make? seconds nanos

def plus (a b : Span) : Except OutOfRange Span := do
  let seconds ← signed 64 (a.seconds + b.seconds)
  let nanos ← signed 32 (a.nanos + b.nanos)
  let seconds ← signed 64 (seconds + nanos / 1000000000)
  make seconds (nanos % 1000000000)

def wait (s : Span) : Except OutOfRange Nat := do
  if s.seconds < 0 then return 0
  let seconds ← unsigned 64 s.seconds
  let nanos ← unsigned 32 s.nanos
  return seconds * 1000000000 + nanos

end Span

namespace Instant

/-- The first second that an instant can have, at the start of the year
-262143. -/
def firstSecond : Int := -8334601228800

def day (t : Instant) : Int := t.seconds / 86400

/-- The time of day after a span that does not go back, as seconds and
nanoseconds, and the seconds of the days that are left over. -/
def timeAfter (t : Instant) (step : Span) :
    Except OutOfRange (Int × Int × Int) := do
  let room ← signed 32 (2000000000 - step.nanos)
  if t.isLeap ∧ step.seconds = 0 ∧ t.nanos < room then
    return (t.timeOfDay, ← signed 32 (t.nanos + step.nanos), 0)
  let nanos ← signed 32 (t.nanos % 1000000000 + step.nanos)
  let seconds ← signed 64 (t.timeOfDay + step.seconds)
  let seconds ← signed 64 (seconds + nanos / 1000000000)
  let left ← signed 64 (seconds - seconds % 86400)
  return (seconds % 86400, nanos % 1000000000, left)

/-- The number of the day after so many seconds, if there is one. -/
def dayAfter (t : Instant) (left : Int) : Option Int := do
  let span ← Span.make? left 0
  let days ← (signed 32 (span.seconds / 86400)).toOption
  let day := t.day + days
  if firstSecond / 86400 ≤ day ∧ day ≤ lastSecond / 86400 then
    some day else none

/-- The instant after a span that does not go back, if there is one. -/
def forward (t : Instant) (step : Span) :
    Except OutOfRange (Option Instant) := do
  let (seconds, nanos, left) ← t.timeAfter step
  return (t.dayAfter left).map fun day => ⟨day * 86400 + seconds, nanos.toNat⟩

/-- The span from `b` to `a`: that of their dates and that of their times. -/
def minus (a b : Instant) : Except OutOfRange Span := do
  let days ← signed 64 (a.day - b.day)
  let dates ← signed 64 (days * 86400)
  let dates ← Span.make dates 0
  let seconds ← signed 64 (a.timeOfDay - b.timeOfDay)
  let seconds ← signed 64 (seconds + leapBetween a b)
  let nanos ← signed 64 (a.nanos - b.nanos)
  let seconds ← signed 64 (seconds + nanos / 1000000000)
  let times ← Span.make seconds (nanos % 1000000000)
  dates.plus times

end Instant

end RuleWatch
