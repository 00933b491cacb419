import RuleWatch.Proofs.Turns
import RuleWatch.Watch.Timer

/-!
The loop of a watch on its clock. The clock goes on from instant to instant,
other clients come with calls of their own, and the refresh that the loop waits
for takes as long as it takes. The loop is looked at whenever the clock shows
another instant and whenever its refresh has ended. Main statement: a loop is at
any time in one of three phases, and one that is stopped never waits.
-/

namespace RuleWatch

namespace Source

/-- How often a script has been called. Calls to a place on a network are not
counted. -/
def tally : Source → Option Nat
  | script s => some s.calls
  | api _ _ => none

@[simp] theorem tally_ask (source : Source) :
    source.ask.tally = source.tally.map (· + 1) := by
  cases source <;> rfl

@[simp] theorem tally_answer (source : Source) :
    source.answer.2.1.tally = source.tally := by
  cases source with
  | script s =>
      simp only [answer, Script.take]
      cases s.queue <;> rfl
  | api base network => rfl

end Source

structure Moment where
  clock : Nat
  wall : Instant
  deriving DecidableEq, Repr

/-- A refresh of the loop: its call and when it has started. -/
structure Cycle where
  call : Nat
  start : Moment
  deriving DecidableEq, Repr

namespace Watch

/-! ### What can happen -/

inductive Happening
  | act (a : Action)
  /-- The clock shows its next instant. The loop may find itself stopped
  then. -/
  | tick (clock : Nat) (wall : Instant) (stops : Bool)
  | finish

def Happening.stops : Happening → Bool
  | tick _ _ stops => stops
  | _ => false

def now (w : Watch) : Moment := ⟨w.clock, w.wall⟩

def arrive (w : Watch) (clock : Nat) (wall : Instant) (stops : Bool) : Watch :=
  { w with clock, wall, isStopped := w.isStopped || stops }

def entered (w : Watch) : Watch := w.enter.wake

def happen (w : Watch) : Happening → Watch
  | .act a => w.after a
  | .tick clock wall stops => (w.arrive clock wall stops).wake
  | .finish => w.finish.wake

/-- The clocks go on with a tick and at no other time, nobody but the calls of a
source counts them, and the loop goes on with the result of its refresh. -/
def CanHappen (w : Watch) : Happening → Prop
  | .act (.outside source _ wall) =>
      source.tally = w.shared.source.tally ∧ wall = w.wall
  | .act a => w.Allows a
  | .tick clock _ _ => w.clock ≤ clock
  | .finish => ∃ since id o, w.loop = some (.refreshing since) ∧
      w.cycle = some id ∧
      w.outcome? id = some o

def elapse (w : Watch) : List Happening → Watch
  | [] => w
  | e :: es => (w.happen e).elapse es

def Elapses (w : Watch) : List Happening → Prop
  | [] => True
  | e :: es => w.CanHappen e ∧ (w.happen e).Elapses es

def refreshed (w : Watch) : Watch :=
  { ({ w with log := w.log ++ [.refreshing] } : Watch).call .update |>.2 with
    loop := some (.refreshing w.clock)
    cycle := some w.begun }

/-- The loop takes what its refresh has ended with, and waits again. -/
def taken (w : Watch) (since id : Nat) (o : Outcome) : Watch :=
  { w.forget id with
    loop := some (.waiting (w.clock + w.interval))
    cycle := none
    metrics := if w.isMeasured then w.metrics.observe o.result (w.clock - since)
      else w.metrics
    log := w.log ++ [.ofUpdate o.result] }

end Watch

/-! ### Journals -/

/-- What has happened since a loop was entered. Nothing that a watch does
depends on it. -/
structure Journal where
  /-- What the clocks have shown, at the entry first. -/
  instants : List Moment
  cycles : List Cycle := []
  ends : List Nat := []
  /-- The calls that the loop has not made. -/
  called : List Nat := []
  asks : List Nat := []

namespace Journal

def clocks (j : Journal) : List Nat := j.instants.map (·.clock)

def starts (j : Journal) : List Nat := j.cycles.map (·.start.clock)

def calls (j : Journal) : List Nat := j.cycles.map (·.call)

def look (j : Journal) (w : Watch) : Journal :=
  match w.loop, w.wake.loop with
  | some (.waiting _), some (.refreshing _) =>
      { j with cycles := j.cycles ++ [⟨w.begun, w.now⟩] }
  | _, _ => j

def note (j : Journal) (t : Task) : Journal :=
  match t.stage with
  | .turn .update => { j with asks := j.asks ++ [t.id] }
  | _ => j

theorem note_cases (j : Journal) (t : Task) :
    (t.stage = .turn .update ∧ j.note t = { j with asks := j.asks ++ [t.id] }) ∨
      t.stage ≠ .turn .update ∧ j.note t = j := by
  unfold note
  split
  · rename_i stage
    exact .inl ⟨stage, rfl⟩
  · rename_i other
    exact .inr ⟨other, rfl⟩

def after (j : Journal) (w : Watch) : Watch.Happening → Journal
  | .act (.call _) => { j with called := j.called ++ [w.begun] }
  | .act (.advance t) => j.note t
  | .act _ => j
  | .tick clock wall stops =>
      ({ j with instants := j.instants ++ [⟨clock, wall⟩] } : Journal).look
        (w.arrive clock wall stops)
  | .finish => ({ j with ends := j.ends ++ [w.clock] } : Journal).look w.finish

def along (j : Journal) (w : Watch) : List Watch.Happening → Journal
  | [] => j
  | e :: es => (j.after w e).along (w.happen e) es

/-- The journal before the loop is looked at. Calls that are at work by then are
not its own. -/
def opened (w : Watch) : Journal :=
  { instants := [w.now], called := w.tasks.map (·.id) }

end Journal

namespace Watch

def journal (w : Watch) (es : List Happening) : Journal :=
  ((Journal.opened w).look w.enter).along w.entered es

section

variable {w v : Watch} {j : Journal} {t : Task} {e : Happening}
  {es : List Happening} {deadline since id : Nat} {o : Outcome}

theorem elapse_append (w : Watch) (es fs : List Happening) :
    w.elapse (es ++ fs) = (w.elapse es).elapse fs := by
  induction es generalizing w with
  | nil => rfl
  | cons e es ih => exact ih (w.happen e)

theorem elapses_append {es fs : List Happening} :
    w.Elapses (es ++ fs) ↔ w.Elapses es ∧ (w.elapse es).Elapses fs := by
  induction es generalizing w with
  | nil => simp [Elapses, elapse]
  | cons e es ih => simp only [List.cons_append, Elapses, elapse, ih, and_assoc]

theorem along_append (j : Journal) (w : Watch) (es fs : List Happening) :
    j.along w (es ++ fs) = (j.along w es).along (w.elapse es) fs := by
  induction es generalizing w j with
  | nil => rfl
  | cons e es ih => exact ih _ _

theorem journal_append (w : Watch) (es fs : List Happening) :
    w.journal (es ++ fs) = (w.journal es).along (w.entered.elapse es) fs :=
  along_append _ _ _ _

/-- What is kept by each happening of a run is kept by the run. -/
theorem elapse_induction {P : Watch → Journal → Prop}
    (step : ∀ {w : Watch} {j : Journal} {e : Happening}, e ∈ es →
      P w j → w.CanHappen e → P (w.happen e) (j.after w e))
    (start : P w j) (elapses : w.Elapses es) :
    P (w.elapse es) (j.along w es) := by
  induction es generalizing w j with
  | nil => exact start
  | cons e es ih =>
      exact ih (fun mem => step (.tail _ mem))
        (step (.head _) start elapses.1) elapses.2

/-! ### Looking at the loop -/

/-- All that can come of looking at a loop, with what the journal gets. -/
inductive Looks (w : Watch) (j : Journal) : Watch → Journal → Prop
  | stop {deadline : Nat} (loop : w.loop = some (.waiting deadline))
      (stopped : w.isStopped = true) :
      Looks w j { w with
        loop := some (.ended .cancelled), log := w.log ++ [.loopStopped] } j
  | refresh {deadline : Nat} (loop : w.loop = some (.waiting deadline))
      (goes : w.isStopped = false) (due : deadline ≤ w.clock) :
      Looks w j w.refreshed { j with cycles := j.cycles ++ [⟨w.begun, w.now⟩] }
  | wait {deadline : Nat} (loop : w.loop = some (.waiting deadline))
      (goes : w.isStopped = false) (early : w.clock < deadline) : Looks w j w j
  | rest (busy : ∀ deadline, w.loop ≠ some (.waiting deadline)) : Looks w j w j

theorem wake_of_busy (busy : ∀ deadline, w.loop ≠ some (.waiting deadline)) :
    w.wake = w := by
  unfold wake
  split
  · rename_i deadline loop
    exact absurd loop (busy deadline)
  · rfl

theorem looks (w : Watch) (j : Journal) : Looks w j w.wake (j.look w) := by
  by_cases waits : ∃ deadline, w.loop = some (.waiting deadline)
  · obtain ⟨deadline, loop⟩ := waits
    cases stopped : w.isStopped with
    | true =>
        have woken : w.wake = { w with
            loop := some (.ended .cancelled),
            log := w.log ++ [.loopStopped] } := by
          simp [wake, loop, stopped, Loop.wake]
        rw [Journal.look, woken, loop]
        exact .stop loop stopped
    | false =>
        by_cases due : deadline ≤ w.clock
        · have woken : w.wake = w.refreshed := by
            simp [wake, loop, stopped, due, Loop.wake, refreshed, call]
          rw [Journal.look, woken, loop]
          exact .refresh loop stopped due
        · have woken : w.wake = w := by
            simp [wake, loop, stopped, due, Loop.wake]
          rw [Journal.look, woken, loop]
          exact .wait loop stopped (Nat.lt_of_not_le due)
  · have busy : ∀ deadline, w.loop ≠ some (.waiting deadline) :=
      not_exists.1 waits
    have same : j.look w = j := by
      unfold Journal.look
      split
      · rename_i loop _
        exact absurd loop (busy _)
      · rfl
    rw [wake_of_busy busy, same]
    exact .rest busy

theorem finish_eq_taken (loop : w.loop = some (.refreshing since))
    (cycle : w.cycle = some id) (ended : w.outcome? id = some o) :
    w.finish = w.taken since id o := by
  simp [finish, loop, cycle, ended, Loop.finish, taken]

/-! ### Order among the calls -/

theorem task_of_outcome? (h : w.outcome? id = some o) :
    ∃ t ∈ w.tasks, t.id = id ∧ t.stage = .done o := by
  obtain ⟨t, found, ended⟩ := Option.bind_eq_some_iff.1 h
  have same := List.find?_some found
  exact ⟨t, List.mem_of_find?_eq_some found, of_decide_eq_true same,
    Stage.eq_done_of_outcome? ended⟩

theorem allows_of_canHappen {a : Action} (can : w.CanHappen (.act a)) :
    w.Allows a := by
  cases a with
  | outside source x wall => trivial
  | _ => exact can

theorem mem_forget : t ∈ (w.forget id).tasks ↔ t ∈ w.tasks ∧ t.id ≠ id := by
  simp [forget]

/-- A call that has ended can be forgotten: it has no turn and waits for
none. -/
theorem Orderly.taken (h : w.Orderly) (ended : w.outcome? id = some o) :
    (w.taken since id o).Orderly := by
  obtain ⟨t, ht, rfl, stage⟩ := task_of_outcome? ended
  have kept {u : Task} (hu : u ∈ w.tasks) (working : u.stage.outcome? = none) :
      u ∈ (w.forget t.id).tasks := by
    refine mem_forget.2 ⟨hu, fun same => ?_⟩
    rw [h.eq_of_id_eq ht hu same, stage] at working
    cases working
  constructor
  · exact h.exclusive
  · exact h.distinct.sublist (List.filter_sublist.map _)
  · exact fun u hu => h.begun u (mem_forget.1 hu).1
  · intro turn hm
    obtain ⟨u, hu, same, working⟩ := h.holder turn hm
    exact ⟨u, kept hu working, same, working⟩
  · intro turn hm
    obtain ⟨u, hu, same, stage⟩ := h.waiter turn hm
    exact ⟨u, kept hu (by rw [stage]; rfl), same, stage⟩
  · exact h.queue
  · exact h.apart
  · exact fun u hu => h.fits u (mem_forget.1 hu).1

theorem Orderly.refreshed (h : w.Orderly) : w.refreshed.Orderly := by
  have logged : ({ w with log := w.log ++ [.refreshing] } : Watch).Orderly :=
    { h with }
  obtain ⟨as, plays, same, -⟩ := plays_call logged .update
  have called := logged.play plays
  rw [same] at called
  exact { called with }

theorem Orderly.wake (h : w.Orderly) : w.wake.Orderly := by
  have how := looks w (Journal.opened w)
  generalize w.wake = v, (Journal.opened w).look w = k at how
  cases how with
  | stop loop stopped => exact { h with }
  | refresh loop goes due => exact h.refreshed
  | wait loop goes early => exact h
  | rest busy => exact h

theorem Orderly.happen (h : w.Orderly) (can : w.CanHappen e) :
    (w.happen e).Orderly := by
  cases e with
  | act a => exact h.after (allows_of_canHappen can)
  | tick clock wall stops =>
      exact Orderly.wake (w := w.arrive clock wall stops) { h with }
  | finish =>
      obtain ⟨since, id, o, loop, cycle, ended⟩ := can
      rw [Watch.happen, finish_eq_taken loop cycle ended]
      exact (h.taken ended).wake

theorem Orderly.entered (h : w.Orderly) : w.entered.Orderly :=
  Orderly.wake (w := w.enter) { h with }

theorem Orderly.elapse (h : w.Orderly) (elapses : w.Elapses es) :
    (w.elapse es).Orderly :=
  elapse_induction (j := .opened w) (P := fun w _ => w.Orderly)
    (fun _ h can => h.happen can) h elapses

/-! ### Phases of the loop -/

/-- What a loop does, with as many refreshes behind it as have ended. -/
inductive Phase (w : Watch) (j : Journal) : Prop
  | waiting {deadline : Nat} (loop : w.loop = some (.waiting deadline))
      (cycle : w.cycle = none) (goes : w.isStopped = false)
      (all : j.cycles.length = j.ends.length)
  | refreshing {since id : Nat} (loop : w.loop = some (.refreshing since))
      (cycle : w.cycle = some id) (last : j.calls[j.ends.length]? = some id)
      (one : j.cycles.length = j.ends.length + 1)
  | ended (loop : w.loop = some (.ended .cancelled)) (cycle : w.cycle = none)
      (stopped : w.isStopped = true) (all : j.cycles.length = j.ends.length)

/-- The call that the loop waits for is the last one that it has made. -/
theorem Phase.of_cycle (h : Phase w j) (cycle : w.cycle = some id) :
    (∃ since, w.loop = some (.refreshing since)) ∧
      j.calls[j.ends.length]? = some id ∧
      j.cycles.length = j.ends.length + 1 := by
  cases h with
  | refreshing loop cycle' last one =>
      obtain rfl := Option.some.inj (cycle.symm.trans cycle')
      exact ⟨⟨_, loop⟩, last, one⟩
  | waiting loop none => rw [none] at cycle; cases cycle
  | ended loop none => rw [none] at cycle; cases cycle

/-- A wait that is looked at goes on, or ends with a refresh or with the
loop. -/
theorem Phase.look (loop : w.loop = some (.waiting deadline))
    (cycle : w.cycle = none) (all : j.cycles.length = j.ends.length) :
    Phase w.wake (j.look w) := by
  have how := looks w j
  generalize w.wake = v, j.look w = k at how
  cases how with
  | stop loop stopped => exact .ended rfl cycle stopped all
  | refresh loop goes due =>
      refine .refreshing rfl rfl ?_ (by simp [all])
      simp [Journal.calls, ← all]
  | wait loop goes early => exact .waiting loop cycle goes all
  | rest busy => exact absurd loop (busy _)

/-- What the calls do is no matter to the loop. -/
theorem act_loop (w : Watch) (j : Journal) (a : Action) :
    (w.after a).loop = w.loop ∧ (w.after a).cycle = w.cycle ∧
      (w.after a).isStopped = w.isStopped ∧ (w.after a).interval = w.interval ∧
      (w.after a).clock = w.clock ∧ (j.after w (.act a)).instants = j.instants ∧
      (j.after w (.act a)).cycles = j.cycles ∧
        (j.after w (.act a)).ends = j.ends := by
  cases a with
  | advance t =>
      rcases j.note_cases t with ⟨-, noted⟩ | ⟨-, noted⟩ <;>
        simp [after, Watch.advance, Journal.after, noted]
  | _ => simp [after, enqueue, Watch.grant, change, Journal.after]

theorem look_of_busy (j : Journal)
    (busy : ∀ deadline, w.loop ≠ some (.waiting deadline)) :
    j.look w = j := by
  have how := looks w j
  generalize w.wake = v, j.look w = k at how
  cases how with
  | refresh loop goes due => exact absurd loop (busy _)
  | _ => rfl

theorem tick_of_busy (j : Journal)
    (busy : ∀ deadline, w.loop ≠ some (.waiting deadline)) (clock : Nat)
    (wall : Instant) (stops : Bool) :
    w.happen (.tick clock wall stops) = w.arrive clock wall stops ∧
      j.after w (.tick clock wall stops) =
        { j with instants := j.instants ++ [⟨clock, wall⟩] } :=
  ⟨wake_of_busy (w := w.arrive clock wall stops) busy,
    look_of_busy (w := w.arrive clock wall stops) _ busy⟩

theorem busy_of_refreshing (loop : w.loop = some (.refreshing since))
    (deadline : Nat) :
    w.loop ≠ some (.waiting deadline) := by
  rw [loop]
  nofun

theorem busy_of_ended {cause : RefreshError}
    (loop : w.loop = some (.ended cause)) (deadline : Nat) :
    w.loop ≠ some (.waiting deadline) := by
  rw [loop]
  nofun

theorem Phase.happen (h : Phase w j) (can : w.CanHappen e) :
    Phase (w.happen e) (j.after w e) := by
  cases e with
  | act a =>
      obtain ⟨sameLoop, sameCycle, sameStop, -, -, -, cycles,
          ends⟩ := act_loop w j a
      have calls : (j.after w (.act a)).calls = j.calls :=
        congrArg (List.map _) cycles
      cases h with
      | waiting loop cycle goes all =>
          exact .waiting (sameLoop.trans loop) (sameCycle.trans cycle)
            (sameStop.trans goes) (by rw [cycles, ends, all])
      | refreshing loop cycle last one =>
          exact .refreshing (sameLoop.trans loop) (sameCycle.trans cycle)
            (by rw [calls, ends, last]) (by rw [cycles, ends, one])
      | ended loop cycle stopped all =>
          exact .ended (sameLoop.trans loop) (sameCycle.trans cycle)
            (sameStop.trans stopped) (by rw [cycles, ends, all])
  | tick clock wall stops =>
      cases h with
      | waiting loop cycle goes all => exact .look loop cycle all
      | refreshing loop cycle last one =>
          obtain ⟨same, noted⟩ :=
            tick_of_busy j (busy_of_refreshing loop) clock wall stops
          rw [same, noted]
          exact .refreshing loop cycle last one
      | ended loop cycle stopped all =>
          obtain ⟨same, noted⟩ :=
            tick_of_busy j (busy_of_ended loop) clock wall stops
          rw [same, noted]
          exact .ended loop cycle (by simp [arrive, stopped]) all
  | finish =>
      obtain ⟨since, id, o, loop, cycle, ended⟩ := can
      rw [Watch.happen, Journal.after, finish_eq_taken loop cycle ended]
      cases h with
      | refreshing loop' cycle' last one => exact .look rfl rfl (by simp [one])
      | waiting loop' => rw [loop] at loop'; cases loop'
      | ended loop' => rw [loop] at loop'; cases loop'

theorem wake_rest (w : Watch) :
    w.wake.isStopped = w.isStopped ∧ w.wake.now = w.now ∧
    w.wake.interval = w.interval ∧ w.wake.shared = w.shared ∧
      w.wake.metrics = w.metrics := by
  have how := looks w (Journal.opened w)
  generalize w.wake = v, (Journal.opened w).look w = k at how
  cases how <;> exact ⟨rfl, rfl, rfl, rfl, rfl⟩

theorem isStopped_wake (w : Watch) : w.wake.isStopped = w.isStopped :=
  (wake_rest w).1

theorem now_wake (w : Watch) : w.wake.now = w.now := (wake_rest w).2.1

theorem clock_wake (w : Watch) : w.wake.clock = w.clock :=
  congrArg Moment.clock (now_wake w)

theorem shared_wake (w : Watch) : w.wake.shared = w.shared :=
  (wake_rest w).2.2.2.1

theorem metrics_wake (w : Watch) : w.wake.metrics = w.metrics :=
  (wake_rest w).2.2.2.2

theorem finish_rest (w : Watch) :
    w.finish.isStopped = w.isStopped ∧ w.finish.now = w.now ∧
    w.finish.interval = w.interval ∧ w.finish.shared = w.shared := by
  unfold finish
  split <;> exact ⟨rfl, rfl, rfl, rfl⟩

theorem isStopped_happen (w : Watch) (e : Happening) :
    (w.happen e).isStopped = (w.isStopped || e.stops) := by
  cases e with
  | act a => simp [happen, act_loop w (Journal.opened w) a, Happening.stops]
  | tick clock wall stops => exact isStopped_wake _
  | finish =>
      rw [happen, isStopped_wake, (finish_rest w).1,
        show Happening.finish.stops = false from rfl, Bool.or_false]

theorem isStopped_happen_of_stopped (stopped : w.isStopped = true)
    (e : Happening) :
    (w.happen e).isStopped = true := by
  rw [isStopped_happen, stopped, Bool.true_or]

theorem Phase.elapse (h : Phase w j) (elapses : w.Elapses es) :
    Phase (w.elapse es) (j.along w es) :=
  elapse_induction (fun _ h can => h.happen can) h elapses

/-- A loop that can tell when the store was last updated waits for its first
refresh. -/
theorem loop_enter {updated : Instant}
    (told : w.shared.store.lastUpdated = .ok updated) :
    w.enter.loop =
      some (.waiting (w.clock + initialDelay updated w.wall w.interval)) := by
  simp [enter, Loop.start, told]

theorem idle_enter (w : Watch) (since : Nat) :
    w.enter.loop ≠ some (.refreshing since) := by
  rw [enter]
  cases told : w.shared.store.lastUpdated <;> simp [Loop.start]

/-- From its entry on it is in one of its phases. -/
theorem phase_entered {updated : Instant}
    (told : w.shared.store.lastUpdated = .ok updated) (idle : w.cycle = none) :
    Phase w.entered ((Journal.opened w).look w.enter) :=
  .look (loop_enter told) idle rfl

theorem phase_journal {updated : Instant}
    (told : w.shared.store.lastUpdated = .ok updated) (idle : w.cycle = none)
    (elapses : w.entered.Elapses es) :
    Phase (w.entered.elapse es) (w.journal es) :=
  (phase_entered told idle).elapse elapses

end

end Watch

end RuleWatch
