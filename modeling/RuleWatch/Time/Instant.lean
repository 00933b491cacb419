/-!
Instants. An instant is told by the seconds since the start of 1970, in which
leap seconds do not count, and by nanoseconds. A leap second lengthens the last
second of a minute: in it there are more than 10⁹ nanoseconds.
-/

namespace RuleWatch

structure Instant where
  seconds : Int
  nanos : Nat
  deriving DecidableEq, Repr

namespace Instant

def epoch : Instant := ⟨0, 0⟩

/-- The last second that an instant can have, at the end of the year 262142. -/
def lastSecond : Int := 8210266876799

def isLeap (t : Instant) : Bool := 1000000000 ≤ t.nanos

def timeOfDay (t : Instant) : Int := t.seconds % 86400

/-- The instant so many nanoseconds later. A leap second that is left has lasted
as long as the second before it. -/
def later (t : Instant) (nanos : Nat) : Instant :=
  if t.isLeap ∧ t.nanos + nanos < 2000000000 then ⟨t.seconds, t.nanos + nanos⟩
  else
    let n := t.nanos % 1000000000 + nanos
    ⟨t.seconds + n / 1000000000, n % 1000000000⟩

/-- The instant so many nanoseconds before or after an ordinary one. -/
def shift (t : Instant) (nanos : Int) : Instant :=
  let n := t.seconds * 1000000000 + t.nanos + nanos
  ⟨n / 1000000000, (n % 1000000000).toNat⟩

/-- The leap second that lies between two times of day, when the earlier one is
in it. -/
def leapBetween (a b : Instant) : Int :=
  if b.timeOfDay < a.timeOfDay ∧ b.isLeap then 1
  else if a.timeOfDay < b.timeOfDay ∧ a.isLeap then -1
  else 0

def since (a b : Instant) : Int :=
  (a.seconds - b.seconds + leapBetween a b) * 1000000000 + (a.nanos - b.nanos)

end Instant

end RuleWatch
