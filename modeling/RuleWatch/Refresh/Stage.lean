import RuleWatch.Refresh.Cycle
import RuleWatch.Snapshot.Lock

/-!
Calls stage by stage. A call that has its turn asks, reads, compiles, writes and
puts in place in steps of its own, so that time can pass between any two of them
and every stop has its place. Main statement: a call that is not held up does
what `update` and `restore` do.
-/

namespace RuleWatch

/-- What is wanted of the detectors. -/
inductive Job
  | update
  | restore
  | read
  deriving DecidableEq, Repr

def Job.access : Job → Access
  | update | restore => .write
  | read => .read

inductive Outcome
  | loaded (count : Nat)
  /-- There was nothing to load. -/
  | nothing
  | failed (cause : RefreshError)
  | seen (s : Snapshot)

namespace Outcome

def ofUpdate : Except RefreshError Nat → Outcome
  | .ok count => loaded count
  | .error e => failed e

def ofRestore : Except RefreshError (Option Nat) → Outcome
  | .ok (some count) => loaded count
  | .ok none => nothing
  | .error e => failed e

end Outcome

/-- What a call has so far. -/
inductive Stage
  | turn (job : Job)
  /-- It waits for the answer of the source. -/
  | asked
  | fetched (rules : RuleSet)
  | compiled (rules : RuleSet) (detectors : List Detector)
  | loaded (raw : String)
  | decoded (rules : RuleSet)
  /-- All that is left is to put the detectors in place. -/
  | ready (detectors : List Detector)
  | done (outcome : Outcome)

namespace Stage

def outcome? : Stage → Option Outcome
  | done o => some o
  | _ => none

/-- Whether a call can go on only later. -/
def isHeld (s : Shared) : Stage → Bool
  | asked => s.source.isHeld
  | done _ => true
  | _ => false

/-- How many steps a call has left, at most. -/
def remaining : Stage → Nat
  | turn _ => 5
  | asked | loaded _ => 4
  | fetched _ => 3
  | compiled _ _ | decoded _ => 2
  | ready _ => 1
  | done _ => 0

def step (now : Instant) (s : Shared) : Stage → Stage × Shared × List Event
  | turn .update => (asked, { s with source := s.source.ask }, [])
  | turn .restore =>
      (match s.store.get with
        | .error e => done (.failed (.storeRead e))
        | .ok none => done .nothing
        | .ok (some raw) => loaded raw, s, [])
  | turn .read => (done (.seen s.snapshot), s, [])
  | asked =>
      let (answer, s, events) := s.answer
      (match answer with
        | .error e => done (.failed (.fetch e))
        | .ok rules => fetched rules, s, events)
  | fetched rules =>
      (match rules.compile with
        | .error e => done (.failed (.compile e))
        | .ok detectors => compiled rules detectors, s, Event.ofCompiling rules)
  | compiled rules detectors =>
      match s.store.set (RuleSet.encode rules) now with
      | .error e => (done (.failed (.storeWrite e)), s, [])
      | .ok store => (ready detectors, { s with store }, [])
  | loaded raw =>
      (match Shared.storedRules raw with
        | .error e => done (.failed e)
        | .ok rules => decoded rules, s, [])
  | decoded rules =>
      (match rules.compile with
        | .error e => done (.failed (.compile e))
        | .ok detectors => ready detectors, s, Event.ofCompiling rules)
  | ready detectors => (done (.loaded detectors.length),
      s.install detectors, [])
  | done o => (done o, s, [])

/-- The steps of a call, at most `n` and none while it is held up. -/
def run (now : Instant) : Nat → Stage → Shared → Stage × Shared × List Event
  | 0, t, s => (t, s, [])
  | n + 1, t, s =>
      if t.isHeld s then (t, s, [])
      else
        let (t, s, first) := t.step now s
        let (t, s, rest) := run now n t s
        (t, s, first ++ rest)

/-- Each step brings a call nearer to its end. -/
theorem remaining_step_lt (now : Instant) (s : Shared) (t : Stage)
    (h : t.outcome? = none) :
    (t.step now s).1.remaining < t.remaining := by
  cases t with
  | turn job =>
      cases job <;> simp only [step] <;> (try split) <;> simp [remaining]
  | asked => simp only [step]; split <;> simp [remaining]
  | fetched rules => simp only [step]; split <;> simp [remaining]
  | compiled rules detectors => simp only [step]; split <;> simp [remaining]
  | loaded raw => simp only [step]; split <;> simp [remaining]
  | decoded rules => simp only [step]; split <;> simp [remaining]
  | ready detectors => simp [step, remaining]
  | done o => simp [outcome?] at h

/-- The gate does not hold those who have their answer. -/
theorem run_done (now : Instant) (n : Nat) (o : Outcome) (s : Shared) :
    run now n (done o) s = (done o, s, []) := by
  cases n <;> simp [run, isHeld]

/-- A refresh that is not held up, step by step. -/
theorem run_update (now : Instant) (s : Shared)
    (h : s.source.ask.isHeld = false) :
    run now 5 (turn .update) s =
      let (result, s, events) := s.update now
      (done (.ofUpdate result), s, events) := by
  have h1 : run now 5 (turn .update) s =
      run now 4 asked { s with source := s.source.ask } := by
    simp [run, isHeld, step]
  have h2 : (asked.isHeld { s with source := s.source.ask }) = false := h
  rw [h1, run, h2]
  rcases ha : ({ s with source := s.source.ask } : Shared).answer
    with ⟨a | rules, s', events⟩
  · simp [Shared.update, step, ha, run_done, Outcome.ofUpdate]
  · cases hc : rules.compile with
    | error e =>
        simp [Shared.update, step, ha, run, isHeld, hc, Outcome.ofUpdate]
    | ok ds =>
        cases hs : s'.store.set (RuleSet.encode rules) now <;>
          simp [Shared.update, Shared.keep, step, ha, run, isHeld, hc,
            hs, Outcome.ofUpdate]

/-- A restore, step by step. -/
theorem run_restore (now : Instant) (s : Shared) :
    run now 5 (turn .restore) s =
      let (result, s, events) := s.restore
      (done (.ofRestore result), s, events) := by
  rcases hg : s.store.get with e | _ | raw
  · simp [Shared.restore, step, run, isHeld, hg, Outcome.ofRestore]
  · simp [Shared.restore, step, run, isHeld, hg, Outcome.ofRestore]
  · rcases hr : Shared.storedRules raw with e | rules
    · simp [Shared.restore, step, run, isHeld, hg, hr, Outcome.ofRestore]
    · cases hc : rules.compile <;>
        simp [Shared.restore, step, run, isHeld, hg, hr, hc, Outcome.ofRestore]

end Stage

end RuleWatch
