import RuleWatch.Proofs.Cancellation
import RuleWatch.Proofs.Punctuality

/-!
What a watch does by itself. It lets its calls go on, looks at its loop and lets
time pass from one deadline to the next, and each of these is a run of what can
happen. Main statement: a loop that is left to a watch with time to pass is not
disturbed.
-/

namespace RuleWatch

namespace Watch

/-- Whether happenings lead from one watch to another one, with a stop among
them or not. -/
def Passes (w : Watch) (stops : Bool) (v : Watch) : Prop :=
  ∃ es, w.Elapses es ∧ w.elapse es = v ∧ es.any Happening.stops = stops

section

variable {w v u : Watch} {t : Task} {e : Happening} {as : List Action}
  {stops stops' : Bool} {clock time n : Nat}

theorem Passes.refl (w : Watch) : w.Passes false w := ⟨[], trivial, rfl, rfl⟩

theorem Passes.trans (h : w.Passes stops v) (h' : v.Passes stops' u) :
    w.Passes (stops || stops') u := by
  obtain ⟨es, elapses, rfl, rfl⟩ := h
  obtain ⟨fs, more, rfl, rfl⟩ := h'
  exact ⟨es ++ fs, elapses_append.2 ⟨elapses, more⟩,
    elapse_append w es fs, List.any_append⟩

theorem Passes.of_happen (can : w.CanHappen e) :
    w.Passes e.stops (w.happen e) :=
  ⟨[e], ⟨can, trivial⟩, rfl, Bool.or_false _⟩

theorem Passes.orderly (h : w.Passes stops v) (order : w.Orderly) :
    v.Orderly := by
  obtain ⟨es, elapses, rfl, -⟩ := h
  exact order.elapse elapses

/-! ### Calls -/

theorem Passes.of_play (plays : w.Plays as)
    (own : ∀ a ∈ as, a.isOutside = false) :
    w.Passes false (w.play as) := by
  induction as generalizing w with
  | nil => exact .refl w
  | cons a as ih =>
      obtain ⟨first, rest⟩ := List.forall_mem_cons.1 own
      have can : w.CanHappen (.act a) := by
        cases a with
        | outside source x wall => cases first
        | _ => exact plays.1
      exact (Passes.of_happen can).trans (ih plays.2 rest)

theorem passes_call (order : w.Orderly) (job : Job) :
    w.Passes false (w.call job).2 := by
  obtain ⟨as, plays, same, own⟩ := plays_call order job
  rw [← same]
  exact .of_play plays own

theorem passes_run (order : w.Orderly) : w.Passes false w.run := by
  obtain ⟨as, plays, same, own⟩ := plays_runFor order _
  rw [run, ← same]
  exact .of_play plays own

theorem move_rest (w : Watch) (t : Task) : (w.move t).isStopped = w.isStopped ∧
    (w.move t).now = w.now ∧ (w.move t).interval = w.interval ∧
      (w.move t).loop = w.loop ∧
      (w.move t).cycle = w.cycle := by
  rcases step : t.stage.step w.wall w.shared with ⟨stage, shared, events⟩
  simp [move, step, now]

theorem run_rest (w : Watch) :
    w.run.isStopped = w.isStopped ∧ w.run.now = w.now ∧
    w.run.interval = w.interval ∧ w.run.loop = w.loop ∧
      w.run.cycle = w.cycle := by
  rw [run]
  generalize w.tasks.foldl _ 0 = n
  induction n generalizing w with
  | zero => exact ⟨rfl, rfl, rfl, rfl, rfl⟩
  | succ n ih =>
      rw [runFor]
      split
      · rename_i t found
        obtain ⟨stopped, now, interval, loop, cycle⟩ := ih (w.move t)
        obtain ⟨stopped', now', interval', loop', cycle'⟩ := move_rest w t
        exact ⟨stopped.trans stopped', now.trans now', interval.trans interval',
          loop.trans loop', cycle.trans cycle'⟩
      · exact ⟨rfl, rfl, rfl, rfl, rfl⟩

theorem run_arrive (w : Watch) (clock : Nat) (stops : Bool) :
    (w.arrive clock w.wall stops).run = w.run.arrive clock w.wall stops := by
  rw [run, run, show (w.arrive clock w.wall stops).tasks = w.tasks from rfl]
  generalize w.tasks.foldl _ 0 = n
  induction n generalizing w with
  | zero => rfl
  | succ n ih =>
      have moved (t : Task) : (w.arrive clock w.wall stops).move t =
          (w.move t).arrive clock w.wall stops := by
        rcases step : t.stage.step w.wall w.shared with ⟨stage, shared, events⟩
        simp [move, arrive, step]
      rw [runFor, runFor, show (w.arrive clock w.wall stops).tasks.find?
        (w.arrive clock w.wall stops).canMove =
        w.tasks.find? w.canMove from rfl]
      cases w.tasks.find? w.canMove with
      | none => rfl
      | some t =>
          have next := ih (w.move t)
          rw [show (w.move t).wall = w.wall
            from congrArg Moment.wall (move_rest w t).2.1] at next
          simpa only [moved] using next

/-- As many steps as the calls have before them are enough for all that they can
do. -/
theorem runFor_stuck (order : w.Orderly)
    (enough : (w.tasks.map (·.stage.remaining)).sum ≤ n) :
    (w.runFor n).tasks.find? (w.runFor n).canMove = none := by
  induction n generalizing w with
  | zero =>
      refine List.find?_eq_none.2 fun t ht moves => ?_
      have working :=
        (order.turn_mem_holders ht (Bool.and_eq_true _ _ ▸ moves).1).2
      have less := remaining_advance_lt order ht working
      omega
  | succ n ih =>
      rw [runFor]
      cases found : w.tasks.find? w.canMove with
      | none => exact found
      | some t =>
          have ht := List.mem_of_find?_eq_some found
          have moves := List.find?_some found
          have working :=
            (order.turn_mem_holders ht (Bool.and_eq_true _ _ ▸ moves).1).2
          have tasks : (w.move t).tasks = (w.advance t).tasks := by
            rcases step : t.stage.step w.wall w.shared
              with ⟨stage, shared, events⟩
            simp [move, advance, next, step]
          have less := remaining_advance_lt order ht working
          rw [← tasks] at less
          obtain ⟨as, plays, same, -⟩ := plays_move order ht moves
          exact ih (same ▸ order.play plays) (by omega)

theorem run_run (order : w.Orderly) : w.run.run = w.run := by
  have stuck : w.run.tasks.find? w.run.canMove = none := by
    refine runFor_stuck order (Nat.le_of_eq ?_)
    rw [List.sum_eq_foldl, List.foldl_map]
  generalize w.run = v at stuck
  rw [run]
  generalize v.tasks.foldl _ 0 = n
  cases n with
  | zero => rfl
  | succ n => rw [runFor, stuck]

/-! ### Ends and looks -/

theorem finish_cases (w : Watch) : w.CanHappen .finish ∨ w.finish = w := by
  unfold finish
  split
  · rename_i since o id loop outcome cycle
    rw [cycle] at outcome
    exact .inl ⟨since, id, o, loop, cycle, outcome⟩
  · exact .inr rfl

theorem finish_eq_of_not_refreshing (idle :
    ∀ since, w.loop ≠ some (.refreshing since)) :
    w.finish = w := by
  refine (finish_cases w).resolve_left ?_
  rintro ⟨since, id, o, loop, -⟩
  exact idle since loop

theorem wake_of_early {deadline : Nat}
    (loop : w.loop = some (.waiting deadline)) (goes : w.isStopped = false)
    (early : w.clock < deadline) : w.wake = w := by
  simp [wake, loop, goes, Loop.wake, Nat.not_le_of_lt early]

theorem arrive_false (w : Watch) (clock : Nat) :
    w.arrive clock w.wall false = { w with clock } := by
  rw [arrive, Bool.or_false]

/-- To look at the loop at an instant, and to end its refresh first if that has
come to its end, is what happens with the instant. -/
theorem passes_look (le : w.clock ≤ clock) (stops : Bool) :
    w.Passes stops (w.arrive clock w.wall stops).finish.wake := by
  have tick : w.Passes stops (w.happen (.tick clock w.wall stops)) :=
    .of_happen le
  rcases finish_cases (w.arrive clock w.wall stops) with can | same
  · have rests : w.happen (.tick clock w.wall stops) =
        w.arrive clock w.wall stops := by
      obtain ⟨since, id, o, loop, -⟩ := can
      exact (tick_of_busy (w := w) (.opened w) (busy_of_refreshing loop)
        clock w.wall stops).1
    rw [rests] at tick
    have ends := tick.trans (.of_happen can)
    rwa [show Happening.finish.stops = false from rfl, Bool.or_false] at ends
  · rw [same]
    exact tick

theorem passes_run_finish (order : w.Orderly) (pos : 0 < w.interval)
    (still : w.isStopped = true → w.run.finish = w.run) :
    w.Passes false w.run.finish := by
  have calls := passes_run order
  obtain ⟨isStopped, now, interval, -, -⟩ := run_rest w
  rcases finish_cases w.run with can | same
  · cases stopped : w.isStopped with
    | true =>
        rw [still stopped]
        exact calls
    | false =>
        have waits : w.run.finish.wake = w.run.finish := by
          obtain ⟨since, id, o, loop, cycle, ended⟩ := can
          rw [finish_eq_taken loop cycle ended]
          exact wake_of_early rfl (isStopped.trans stopped)
            (Nat.lt_add_of_pos_right (interval.symm ▸ pos))
        have ends := calls.trans (.of_happen can)
        rwa [happen, waits] at ends
  · rw [same]
    exact calls

/-- A loop that is stopped has ended by then, or its call is held up still. -/
theorem run_finish_of_stopped (order : w.Orderly)
    (stopped : w.isStopped = true) :
    w.run.finish.wake.run.finish = w.run.finish.wake.run := by
  have ended {v : Watch} (loop : v.loop = some (.ended .cancelled)) :
      v.run.finish = v.run := by
    refine finish_eq_of_not_refreshing fun since refreshing => ?_
    rw [(run_rest v).2.2.2.1, loop] at refreshing
    cases refreshing
  have stopped : w.run.isStopped = true := (run_rest w).1.trans stopped
  rcases finish_cases w.run with ⟨since, id, o, loop, cycle, outcome⟩ | same
  · rw [finish_eq_taken loop cycle outcome]
    exact ended (wake_of_stopped rfl stopped)
  · rw [same]
    by_cases waits : ∃ deadline, w.run.loop = some (.waiting deadline)
    · obtain ⟨deadline, loop⟩ := waits
      exact ended (wake_of_stopped loop stopped)
    · rw [wake_of_busy (not_exists.1 waits), run_run order, same]

/-! ### Time -/

theorem settle_rest (w : Watch) :
    w.settle.isStopped = w.isStopped ∧ w.settle.now = w.now ∧
    w.settle.interval = w.interval := by
  have looked := wake_rest w.run.finish
  have calls := run_rest w.run.finish.wake
  have ends := finish_rest w.run.finish.wake.run
  have first := run_rest w
  have last := finish_rest w.run
  refine ⟨?_, ?_, ?_⟩
  · exact ends.1.trans (calls.1.trans (looked.1.trans (last.1.trans first.1)))
  · exact ends.2.1.trans
      (calls.2.1.trans (looked.2.1.trans (last.2.1.trans first.2.1)))
  · exact ends.2.2.1.trans (calls.2.2.1.trans
      (looked.2.2.1.trans (last.2.2.1.trans first.2.2.1)))

/-- All that a watch does at an instant is what happens then. -/
theorem passes_settle (order : w.Orderly) (le : w.clock ≤ clock)
    (pos : 0 < w.interval) (stops : Bool) :
    w.Passes stops (w.arrive clock w.wall stops).settle := by
  let v := w.arrive clock w.wall stops
  have first : w.Passes stops v.run.finish.wake := by
    have now := (run_rest w).2.1
    have late : w.run.clock ≤ clock := by
      rw [show w.run.clock = w.clock from congrArg Moment.clock now]
      exact le
    have there := passes_look late stops
    rw [show w.run.wall = w.wall from congrArg Moment.wall now,
      ← run_arrive] at there
    exact (passes_run order).trans there
  have interval : v.run.finish.wake.interval = w.interval :=
    (wake_rest _).2.2.1.trans ((finish_rest _).2.2.1.trans (run_rest v).2.2.1)
  have last : v.run.finish.wake.Passes false v.settle := by
    refine passes_run_finish (first.orderly order)
      (interval.symm ▸ pos) fun stopped => ?_
    rw [(wake_rest _).1, (finish_rest _).1, (run_rest v).1] at stopped
    exact run_finish_of_stopped { order with } stopped
  have all := first.trans last
  rwa [Bool.or_false] at all

/-- Time can pass without an instant at which the loop has something to do. -/
theorem passes_quietly (le : w.clock ≤ time)
    (same : ({ w with clock := time } : Watch).wake =
      { w with clock := time }) :
    w.Passes false { w with clock := time } := by
  have tick : w.Passes false (w.happen (.tick time w.wall false)) :=
    .of_happen le
  rwa [happen, arrive_false, same] at tick

theorem passes_passUntil (order : w.Orderly) (goes : w.isStopped = false)
    (pos : 0 < w.interval) (le : w.clock ≤ time) (n : Nat) :
    w.Passes false (w.passUntil time n) := by
  induction n generalizing w with
  | zero =>
      have there := passes_settle order le pos false
      rwa [arrive_false] at there
  | succ n ih =>
      rw [passUntil]
      cases due : w.loop.bind Loop.deadline? with
      | none =>
          refine passes_quietly le (wake_of_busy fun deadline loop => ?_)
          rw [show w.loop = _ from loop] at due
          cases due
      | some deadline =>
          obtain ⟨l, loop, waits⟩ := Option.bind_eq_some_iff.1 due
          obtain rfl : l = .waiting deadline := by
            cases l <;> cases waits
            rfl
          by_cases soon : deadline ≤ time
          · simp only [if_pos soon]
            have there :=
              passes_settle order (Nat.le_max_left w.clock deadline) pos false
            rw [arrive_false] at there
            obtain ⟨isStopped, now, interval⟩ :=
              settle_rest { w with clock := max w.clock deadline }
            refine there.trans
              (ih (there.orderly order) (isStopped.trans goes) ?_ ?_)
            · rw [interval]
              exact pos
            · rw [show Watch.clock _ = max w.clock deadline
                from congrArg Moment.clock now]
              exact Nat.max_le.2 ⟨le, soon⟩
          · simp only [if_neg soon]
            exact passes_quietly le
              (wake_of_early loop goes (Nat.lt_of_not_le soon))

theorem passes_pass (order : w.Orderly) (goes : w.isStopped = false)
    (pos : 0 < w.interval) (nanos : Nat) : w.Passes false (w.pass nanos) :=
  passes_passUntil order goes pos (Nat.le_add_right _ _) _

/-- A stop that comes between two instants is one that comes with the next
one. -/
theorem passes_stop (order : w.Orderly) (pos : 0 < w.interval) :
    w.Passes true ({ w with isStopped := true } : Watch).settle := by
  have there := passes_settle order (Nat.le_refl w.clock) pos true
  rwa [arrive, Bool.or_true] at there

/-- With no calls at work, a watch begins with the entry of its loop. -/
theorem passes_enter (order : w.Orderly) (pos : 0 < w.interval)
    (free : w.tasks = []) :
    w.entered.Passes false w.enter.settle := by
  have calls : w.enter.run = w.enter := by
    rw [run, show w.enter.tasks = [] from free]
    rfl
  have same : w.enter.settle = w.entered.run.finish := by
    rw [settle, calls, finish_eq_of_not_refreshing w.idle_enter]
    rfl
  rw [same]
  refine passes_run_finish order.entered
    ((wake_rest w.enter).2.2.1.symm ▸ pos) fun stopped => ?_
  refine finish_eq_of_not_refreshing fun since refreshing => ?_
  rw [(run_rest _).2.2.2.1] at refreshing
  by_cases waits : ∃ deadline, w.enter.loop = some (.waiting deadline)
  · obtain ⟨deadline, loop⟩ := waits
    rw [entered, isStopped_wake] at stopped
    rw [entered, wake_of_stopped loop stopped] at refreshing
    cases refreshing
  · rw [entered, wake_of_busy (not_exists.1 waits)] at refreshing
    exact w.idle_enter since refreshing

end

/-! ### Loops that are left alone -/

section

variable {w v : Watch} {updated : Instant} {es : List Happening}

theorem Undisturbed.passes (h : w.Undisturbed updated es)
    (p : (w.entered.elapse es).Passes false v) :
    ∃ fs, w.Undisturbed updated (es ++ fs) ∧
      w.entered.elapse (es ++ fs) = v := by
  obtain ⟨fs, elapses, rfl, unstopped⟩ := p
  refine ⟨fs,
    { h with elapses := elapses_append.2 ⟨h.elapses, elapses⟩,
             unstopped := ?_ }, elapse_append _ es fs⟩
  refine List.forall_mem_append.2 ⟨h.unstopped, fun e he => ?_⟩
  exact Bool.eq_false_iff.2 (List.any_eq_false.1 unstopped e he)

/-- The program enters its loop before anybody calls. -/
theorem undisturbed_enter (order : w.Orderly) (idle : w.cycle = none)
    (free : w.tasks = []) (told : w.shared.store.lastUpdated = .ok updated)
    (goes : w.isStopped = false) (pos : 0 < w.interval) :
    ∃ es, w.Undisturbed updated es ∧ w.entered.elapse es = w.enter.settle := by
  have alone : w.Undisturbed updated [] :=
    ⟨order, idle, told, goes, trivial, by simp⟩
  exact alone.passes (passes_enter order pos free)

theorem Undisturbed.call (h : w.Undisturbed updated es) (job : Job) :
    ∃ fs, w.Undisturbed updated (es ++ fs) ∧
      w.entered.elapse (es ++ fs) = ((w.entered.elapse es).call job).2 :=
  h.passes (passes_call (h.order.entered.elapse h.elapses) job)

/-- A loop that is left to its watch is not disturbed by the time that passes,
so it keeps its schedule. -/
theorem Undisturbed.pass (h : w.Undisturbed updated es)
    (pos : 0 < w.interval) (nanos : Nat) :
    ∃ fs, w.Undisturbed updated (es ++ fs) ∧
      w.entered.elapse (es ++ fs) = (w.entered.elapse es).pass nanos := by
  refine h.passes
    (passes_pass (h.order.entered.elapse h.elapses) h.goes_on ?_ nanos)
  rw [h.punctual.same]
  exact pos

end

end Watch

end RuleWatch
