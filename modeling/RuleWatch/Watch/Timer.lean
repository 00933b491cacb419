import RuleWatch.Watch.Basic

/-!
The loop of a watch and its clock. Time passes from one deadline of the loop to
the next, and at each the watch goes on until nothing more can happen.
-/

namespace RuleWatch

def Outcome.result : Outcome → Except RefreshError Nat
  | loaded count => .ok count
  | nothing => .ok 0
  | failed e => .error e
  | seen s => .ok s.count

namespace Watch

def enter (w : Watch) : Watch :=
  let loop := Loop.start w.shared.store.lastUpdated w.wall w.interval w.clock
  { w with
    loop
    log := match loop with
      | .ended _ => w.log
      | _ =>
          w.log ++
            [.loopStarted w.shared.source.name (w.interval / 1000000000)] }

/-- The loop takes the result of its refresh. -/
def finish (w : Watch) : Watch :=
  match w.loop, w.cycle.bind w.outcome?, w.cycle with
  | some (.refreshing since), some outcome, some id =>
      let result := outcome.result
      { w.forget id with
        loop := some ((Loop.refreshing since).finish w.interval w.clock)
        cycle := none
        metrics :=
          if w.isMeasured then w.metrics.observe result (w.clock - since)
          else w.metrics
        log := w.log ++ [.ofUpdate result] }
  | _, _, _ => w

/-- The loop ends its wait, if it is stopped or it is time for a refresh. -/
def wake (w : Watch) : Watch :=
  match w.loop with
  | some (.waiting deadline) =>
      match (Loop.waiting deadline).wake w.isStopped w.clock with
      | .refreshing since =>
          let (id, w) :=
            { w with log := w.log ++ [Event.refreshing] }.call .update
          { w with
            loop := some (.refreshing since)
            cycle := some id }
      | .ended cause =>
          { w with
            loop := some (.ended cause)
            log := w.log ++ [.loopStopped] }
      | .waiting _ => w
  | _ => w

/-- Lets calls and loop go on as far as they can. -/
def settle (w : Watch) : Watch := w.run.finish.wake.run.finish

/-- Lets time pass, with at most `n` deadlines on the way. -/
def passUntil (time : Nat) : Nat → Watch → Watch
  | 0, w => { w with clock := time }.settle
  | n + 1, w =>
      match w.loop.bind Loop.deadline? with
      | some deadline =>
          if deadline ≤ time then
            passUntil time n { w with clock := max w.clock deadline }.settle
          else { w with clock := time }
      | none => { w with clock := time }

def pass (w : Watch) (nanos : Nat) : Watch :=
  w.passUntil (w.clock + nanos) (nanos / w.interval + 1)

/-- A call that is waited for, with what it has ended with. -/
def await (w : Watch) (job : Job) : Option Outcome × Watch :=
  let (id, w) := w.call job
  let w := w.settle
  match w.outcome? id with
  | some outcome => (some outcome, w.forget id)
  | none => (none, w)

/-- How many detectors there are, unless somebody is changing them or waits for
it. -/
def count? (w : Watch) : Option Nat :=
  if w.lock.isOpen then some w.shared.snapshot.count else none

end Watch

end RuleWatch
