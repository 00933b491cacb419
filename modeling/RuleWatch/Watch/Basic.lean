import RuleWatch.Refresh.Loop
import RuleWatch.Refresh.Metrics
import RuleWatch.Refresh.Stage

/-!
A watch keeps detectors fresh. Calls come at any time and take turns: each goes
on, stage by stage, as soon as it has its turn and nothing holds it up.
-/

namespace RuleWatch

structure Task where
  id : Nat
  job : Job
  stage : Stage

structure Watch where
  shared : Shared
  isEnabled : Bool
  /-- In nanoseconds. -/
  interval : Nat
  /-- The time on the wall. -/
  wall : Instant
  lock : Lock Nat := {}
  /-- The calls, in the order in which they came. -/
  tasks : List Task := []
  /-- How many calls there have been. -/
  begun : Nat := 0
  /-- The time that the loop goes by, in nanoseconds. -/
  clock : Nat := 0
  loop : Option Loop := none
  /-- The call that the loop waits for. -/
  cycle : Option Nat := none
  isStopped : Bool := false
  /-- Whether the refreshes of the loop are measured. -/
  isMeasured : Bool := true
  metrics : Metrics := {}
  log : List Event := []

namespace Watch

/-- A watch over a store and a source, with the detectors that it restores. -/
def start (shared : Shared) (isEnabled : Bool) (interval : Nat)
    (wall : Instant) : Watch :=
  let (shared, log) := shared.start isEnabled
  { shared, isEnabled, interval, wall, log }

/-- Another life over the same store and source. Nothing of the old one goes
on. -/
def restart (w : Watch) : Watch :=
  let (shared, log) := w.shared.start w.isEnabled
  { w with
    shared
    lock := {}
    tasks := []
    loop := none
    cycle := none
    isStopped := false
    log := w.log ++ log }

/-- A call comes and asks for its turn. It gets the number of calls before
it. -/
def call (w : Watch) (job : Job) : Nat × Watch :=
  (w.begun, { w with
    lock := w.lock.request ⟨w.begun, job.access⟩
    tasks := w.tasks ++ [⟨w.begun, job, .turn job⟩]
    begun := w.begun + 1 })

def canMove (w : Watch) (t : Task) : Bool :=
  w.lock.holds t.id && !t.stage.isHeld w.shared

/-- One step of a call. It gives its turn back at its end. -/
def move (w : Watch) (t : Task) : Watch :=
  let (stage, shared, events) := t.stage.step w.wall w.shared
  { w with
    shared
    tasks := w.tasks.map fun u => if u.id = t.id then { u with stage } else u
    lock := if stage.outcome?.isSome then w.lock.leave t.id else w.lock
    log := w.log ++ events }

/-- Steps of the calls, at most `n`. -/
def runFor : Nat → Watch → Watch
  | 0, w => w
  | n + 1, w =>
      match w.tasks.find? w.canMove with
      | some t => runFor n (w.move t)
      | none => w

/-- Lets all calls go on as far as they can. -/
def run (w : Watch) : Watch :=
  w.runFor (w.tasks.foldl (fun n t => n + t.stage.remaining) 0)

def outcome? (w : Watch) (id : Nat) : Option Outcome :=
  (w.tasks.find? (·.id = id)).bind (·.stage.outcome?)

def forget (w : Watch) (id : Nat) : Watch :=
  { w with tasks := w.tasks.filter (·.id ≠ id) }

/-- The calls of a kind that the loop has not made, with what they have ended
with. -/
def results (w : Watch) (job : Job) : List (Option Outcome) :=
  (w.tasks.filter fun t => t.job = job ∧ some t.id ≠ w.cycle).map
    (·.stage.outcome?)

def forgetDone (w : Watch) : Watch :=
  { w with tasks := w.tasks.filter fun t => t.stage.outcome?.isNone }

end Watch

end RuleWatch
