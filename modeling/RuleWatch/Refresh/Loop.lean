import RuleWatch.Refresh.Delay
import RuleWatch.Refresh.Fault

/-!
The refresh loop. It waits for the first refresh, refreshes, and waits for one
interval after the end of each refresh. How the refreshes go does not matter to
it, and it is stopped only while it waits. Times are nanoseconds on a clock that
never goes back.
-/

namespace RuleWatch

inductive Loop
  | waiting (deadline : Nat)
  | refreshing (since : Nat)
  | ended (cause : RefreshError)

namespace Loop

/-- Enters the loop. The wait is taken from the time of the last update by the
clock on the wall. -/
def start (lastUpdated : Except StoreError Instant) (wall : Instant)
    (interval clock : Nat) : Loop :=
  match lastUpdated with
  | .ok t => waiting (clock + initialDelay t wall interval)
  | .error e => ended (.lastUpdated e)

/-- What comes of a wait: a stop goes before a refresh. -/
def wake (isStopped : Bool) (clock : Nat) : Loop → Loop
  | waiting deadline =>
      if isStopped then ended .cancelled
      else if deadline ≤ clock then refreshing clock
      else waiting deadline
  | l => l

def finish (interval clock : Nat) : Loop → Loop
  | refreshing _ => waiting (clock + interval)
  | l => l

/-- When the loop has to be woken. -/
def deadline? : Loop → Option Nat
  | waiting deadline => some deadline
  | _ => none

end Loop

end RuleWatch
