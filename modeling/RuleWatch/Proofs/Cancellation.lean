import RuleWatch.Proofs.Accounts
import RuleWatch.Proofs.Progress

/-!
Stopping a loop. A stop is looked at only while the loop waits, and there before
the clock: what has not started by then does not start, and what is at work goes
on to its end as if there were no stop. Main statement: a loop that can tell
when the store was last updated ends if it is stopped and not otherwise, between
two refreshes, and leaves nothing of its own at work.
-/

namespace RuleWatch

namespace Watch

def Happening.unstopped : Happening → Happening
  | tick clock wall _ => tick clock wall false
  | e => e

/-- What refreshes work on is as it was. -/
structure Untouched (w v : Watch) : Prop where
  snapshot : v.shared.snapshot = w.shared.snapshot
  content : v.shared.store.content = w.shared.store.content
  tally : v.shared.source.tally = w.shared.source.tally
  metrics : v.metrics = w.metrics

/-- A loop that has ended, with no calls at work but those of others. -/
structure Retired (cause : RefreshError) (w : Watch) (j : Journal) : Prop where
  loop : w.loop = some (.ended cause)
  cycle : w.cycle = none
  others : ∀ t ∈ w.tasks, t.id ∈ j.called

section

variable {w v u : Watch} {j : Journal} {t : Task} {e : Happening}
  {es rest : List Happening} {cause : RefreshError} {before : Option Nat}
  {since id : Nat} {o : Outcome}

/-! ### Loops that have ended -/

theorem Untouched.trans (h : Untouched w v) (h' : Untouched v u) :
    Untouched w u :=
  ⟨h'.snapshot.trans h.snapshot, h'.content.trans h.content,
    h'.tally.trans h.tally, h'.metrics.trans h.metrics⟩

theorem Retired.happen (h : Retired cause w j) (can : w.CanHappen e) :
    Retired cause (w.happen e) (j.after w e) ∧
      (w.happen e).metrics = w.metrics ∧
      (j.after w e).cycles = j.cycles := by
  cases e with
  | act a =>
      obtain ⟨loop, cycle, -, -, -, -, cycles, -⟩ := act_loop w j a
      refine ⟨⟨loop.trans h.loop, cycle.trans h.cycle, ?_⟩,
        by cases a <;> rfl, cycles⟩
      cases a with
      | call job =>
          intro u hu
          rcases mem_tasks_enqueue hu with old | rfl
          · exact List.mem_append_left _ (h.others u old)
          · exact List.mem_append_right _ (List.mem_singleton_self _)
      | grant t => exact h.others
      | advance t =>
          have called : (j.note t).called = j.called := by
            rcases j.note_cases t with ⟨-, noted⟩ | ⟨-, noted⟩ <;> rw [noted]
          intro u hu
          obtain ⟨v, hv, rfl⟩ := List.mem_map.1 hu
          change _ ∈ (j.note t).called
          rw [called]
          split <;> exact h.others v hv
      | outside source x wall => exact h.others
  | tick clock wall stops =>
      obtain ⟨same, noted⟩ :=
        tick_of_busy j (busy_of_ended h.loop) clock wall stops
      rw [same, noted]
      exact ⟨⟨h.loop, h.cycle, h.others⟩, rfl, rfl⟩
  | finish =>
      obtain ⟨since, id, o, loop, -⟩ := can
      rw [h.loop] at loop
      cases loop

theorem Retired.elapse (h : Retired cause w j) (elapses : w.Elapses es) :
    Retired cause (w.elapse es) (j.along w es) ∧
      (w.elapse es).metrics = w.metrics ∧
      (j.along w es).cycles = j.cycles := by
  let P (v : Watch) (k : Journal) : Prop :=
    Retired cause v k ∧ v.metrics = w.metrics ∧ k.cycles = j.cycles
  have step {v : Watch} {k : Journal} {e : Happening} (_ : e ∈ es) (so : P v k)
      (can : v.CanHappen e) : P (v.happen e) (k.after v e) := by
    obtain ⟨next, metrics, cycles⟩ := so.1.happen can
    exact ⟨next, metrics.trans so.2.1, cycles.trans so.2.2⟩
  exact elapse_induction (P := P) step ⟨h, rfl, rfl⟩ elapses

/-- Where all calls have ended and none comes, nobody touches what refreshes
work on. -/
theorem Retired.quiet_happen (h : Retired cause w j) (order : w.Orderly)
    (gone : ∀ t ∈ w.tasks, t.stage.outcome? ≠ none) (can : w.CanHappen e)
    (alone : ∀ job, e ≠ .act (.call job)) :
    Untouched w (w.happen e) ∧ (w.happen e).tasks = w.tasks ∧
      (j.after w e).asks = j.asks := by
  cases e with
  | act a =>
      cases a with
      | call job => exact absurd rfl (alone job)
      | grant t =>
          refine absurd ?_ (gone t can.1)
          rw [order.stage_of_waiting can.1 can.2.1]
          rfl
      | advance t =>
          exact absurd (order.turn_mem_holders can.1 can.2).2 (gone t can.1)
      | outside source x wall =>
          exact ⟨⟨rfl, Store.content_under _ _, can.1, rfl⟩, rfl, rfl⟩
  | tick clock wall stops =>
      obtain ⟨same, noted⟩ :=
        tick_of_busy j (busy_of_ended h.loop) clock wall stops
      rw [same, noted]
      exact ⟨⟨rfl, rfl, rfl, rfl⟩, rfl, rfl⟩
  | finish =>
      obtain ⟨since, id, o, loop, -⟩ := can
      rw [h.loop] at loop
      cases loop

theorem Retired.quiet_elapse (h : Retired cause w j) (order : w.Orderly)
    (gone : ∀ t ∈ w.tasks, t.stage.outcome? ≠ none) (elapses : w.Elapses es)
    (alone : ∀ job, .act (.call job) ∉ es) :
    Untouched w (w.elapse es) ∧ (j.along w es).asks = j.asks := by
  let P (v : Watch) (k : Journal) : Prop :=
    (Retired cause v k ∧ v.Orderly ∧ v.tasks = w.tasks) ∧
      Untouched w v ∧ k.asks = j.asks
  have step {v : Watch} {k : Journal} {e : Happening} (here : e ∈ es)
      (so : P v k) (can : v.CanHappen e) : P (v.happen e) (k.after v e) := by
    obtain ⟨⟨retired, order, tasks⟩, same, asks⟩ := so
    have other (job : Job) : e ≠ .act (.call job) := by
      rintro rfl
      exact alone job here
    obtain ⟨same', tasks', asks'⟩ :=
      retired.quiet_happen order (tasks ▸ gone) can other
    exact ⟨⟨(retired.happen can).1, order.happen can, tasks'.trans tasks⟩,
      same.trans same', asks'.trans asks⟩
  have all : P (w.elapse es) (j.along w es) :=
    elapse_induction step ⟨⟨h, order, rfl⟩, ⟨rfl, rfl, rfl, rfl⟩, rfl⟩ elapses
  exact all.2

/-- A loop that has told when the store was last updated ends only if it is
stopped. -/
theorem Phase.retired (h : Phase w j) (accounted : Accounted before w j)
    (loop : w.loop = some (.ended cause)) :
    cause = .cancelled ∧ w.isStopped = true ∧ Retired cause w j := by
  cases h with
  | waiting loop' => rw [loop] at loop'; cases loop'
  | refreshing loop' => rw [loop] at loop'; cases loop'
  | ended loop' cycle stopped all =>
      obtain rfl : cause = .cancelled :=
        Loop.ended.inj (Option.some.inj (loop.symm.trans loop'))
      refine ⟨rfl, stopped, loop', cycle, fun t ht => ?_⟩
      rcases accounted.owned t ht with own | other
      · rw [cycle] at own
        cases own
      · exact other

/-- A loop that cannot tell it ends at its entry, stopped or not. -/
theorem entered_of_error {fault : StoreError}
    (untold : w.shared.store.lastUpdated = .error fault) :
    w.entered = { w with loop := some (.ended (.lastUpdated fault)) } := by
  have enter :
      w.enter = { w with loop := some (.ended (.lastUpdated fault)) } := by
    simp [Watch.enter, Loop.start, untold]
  rw [entered, enter, wake_of_busy (by simp)]

theorem retired_entered {fault : StoreError}
    (untold : w.shared.store.lastUpdated = .error fault)
    (idle : w.cycle = none) :
    Retired (.lastUpdated fault) w.entered (w.journal []) := by
  have enter : w.enter.loop = some (.ended (.lastUpdated fault)) := by
    simp [Watch.enter, Loop.start, untold]
  have journal : w.journal [] = .opened w := look_of_busy _ (by simp [enter])
  rw [journal, entered_of_error untold]
  exact ⟨rfl, idle, fun t ht => List.mem_map_of_mem ht⟩

/-! ### What starts -/

theorem cycles_look (w : Watch) (j : Journal) :
    (j.look w).cycles = j.cycles ∨
      w.isStopped = false ∧
        (j.look w).cycles = j.cycles ++ [⟨w.begun, w.now⟩] := by
  have how := looks w j
  generalize w.wake = v, j.look w = k at how
  cases how with
  | refresh loop goes due => exact .inr ⟨goes, rfl⟩
  | _ => exact .inl rfl

/-- All that can start with what happens starts then. -/
theorem cycles_happen (can : w.CanHappen e) :
    w.clock ≤ (w.happen e).clock ∧
      ∃ more, (j.after w e).cycles = j.cycles ++ more ∧
      ∀ m ∈ more, m.start.clock = (w.happen e).clock := by
  have looked (v : Watch) (k : Journal) :
      ∃ more, (k.look v).cycles = k.cycles ++ more ∧
      ∀ m ∈ more, m.start.clock = v.wake.clock := by
    rw [clock_wake]
    rcases cycles_look v k with same | ⟨-, one⟩
    · exact ⟨[], by simp [same], by simp⟩
    · exact ⟨_, one, by simp [now]⟩
  cases e with
  | act a =>
      obtain ⟨-, -, -, -, clock, -, cycles, -⟩ := act_loop w j a
      exact ⟨Nat.le_of_eq clock.symm, [], by simp [cycles], by simp⟩
  | tick clock wall stops =>
      exact ⟨by rw [Watch.happen, clock_wake]; exact can, looked _ _⟩
  | finish =>
      obtain ⟨since, id, o, loop, cycle, ended⟩ := can
      refine ⟨?_, looked _ _⟩
      rw [Watch.happen, clock_wake, finish_eq_taken loop cycle ended]
      exact Nat.le_refl _

/-- What starts in a stretch of time starts not before it and not behind it. -/
theorem cycles_along (elapses : w.Elapses es) : w.clock ≤ (w.elapse es).clock ∧
    ∃ more, (j.along w es).cycles = j.cycles ++ more ∧
      ∀ m ∈ more,
        w.clock ≤ m.start.clock ∧ m.start.clock ≤ (w.elapse es).clock := by
  induction es generalizing w j with
  | nil => exact ⟨Nat.le_refl _, [], by simp [Journal.along], by simp⟩
  | cons e es ih =>
      obtain ⟨le, first, cycles, starts⟩ := cycles_happen (j := j) elapses.1
      obtain ⟨le', more, cycles', starts'⟩ := ih (j := j.after w e) elapses.2
      refine ⟨Nat.le_trans le le', first ++ more, ?_, fun m hm => ?_⟩
      · rw [Journal.along, cycles', cycles, List.append_assoc]
      · rcases List.mem_append.1 hm with now | later
        · rw [starts m now]
          exact ⟨le, le'⟩
        · exact ⟨Nat.le_trans le (starts' m later).1, (starts' m later).2⟩

/-- A stop goes before a refresh, also where it comes when the wait is over. -/
theorem cycles_after_stop (stopped : (w.isStopped || e.stops) = true) :
    (j.after w e).cycles = j.cycles := by
  have looked {v : Watch} (k : Journal) (stopped : v.isStopped = true) :
      (k.look v).cycles = k.cycles := by
    refine (cycles_look v k).resolve_right fun other => ?_
    rw [other.1] at stopped
    cases stopped
  cases e with
  | act a => exact (act_loop w j a).2.2.2.2.2.2.1
  | tick clock wall stops => exact looked _ stopped
  | finish =>
      refine looked _ ?_
      rw [(finish_rest w).1]
      exact (Bool.or_false _).symm.trans stopped

theorem cycles_along_stopped (stopped : w.isStopped = true) :
    (j.along w es).cycles = j.cycles := by
  induction es generalizing w j with
  | nil => rfl
  | cons e es ih =>
      rw [Journal.along, ih (isStopped_happen_of_stopped stopped e)]
      exact cycles_after_stop (by rw [stopped, Bool.true_or])

/-! ### What is at work -/

def halt (w : Watch) (stopped : Bool) : Watch := { w with isStopped := stopped }

theorem canHappen_halt {stopped : Bool} :
    (w.halt stopped).CanHappen e ↔ w.CanHappen e.unstopped := by
  cases e with
  | act a => cases a <;> rfl
  | _ => rfl

/-- A refresh at work goes on as it would without a stop. -/
theorem happen_refreshing (loop : w.loop = some (.refreshing since))
    (ne : e ≠ .finish) (stopped : Bool) :
    (w.halt stopped).happen e =
      (w.happen e.unstopped).halt (stopped || e.stops) ∧
      (w.happen e.unstopped).loop = some (.refreshing since) := by
  cases e with
  | act a =>
      refine ⟨?_, (act_loop w (.opened w) a).1.trans loop⟩
      rw [show (Happening.act a).stops = false from rfl, Bool.or_false]
      cases a <;> rfl
  | tick clock wall stops =>
      have halted := tick_of_busy (w := w.halt stopped) (.opened w)
        (busy_of_refreshing loop) clock wall stops
      have whole :=
        tick_of_busy (.opened w) (busy_of_refreshing loop) clock wall false
      rw [halted.1, Happening.unstopped, whole.1]
      exact ⟨rfl, loop⟩
  | finish => exact absurd rfl ne

theorem elapse_refreshing (loop : w.loop = some (.refreshing since))
    (unfinished : .finish ∉ es) (stopped : Bool) :
    (w.halt stopped).elapse es =
        (w.elapse (es.map Happening.unstopped)).halt
          (stopped || es.any Happening.stops) ∧
      ((w.halt stopped).Elapses es ↔
        w.Elapses (es.map Happening.unstopped)) := by
  induction es generalizing w stopped with
  | nil => exact ⟨by simp [elapse], Iff.rfl⟩
  | cons e es ih =>
      obtain ⟨ne, unfinished⟩ := not_or.1 (List.mem_cons.not.1 unfinished)
      obtain ⟨first, loop⟩ := happen_refreshing loop (Ne.symm ne) stopped
      obtain ⟨rest, elapses⟩ := ih loop unfinished (stopped || e.stops)
      constructor
      · rw [elapse, first, rest, List.any_cons, ← Bool.or_assoc]
        rfl
      · rw [Elapses, first, elapses, canHappen_halt]
        rfl

theorem wake_of_stopped {deadline : Nat}
    (loop : w.loop = some (.waiting deadline)) (stopped : w.isStopped = true) :
    w.wake.loop = some (.ended .cancelled) := by
  simp [wake, loop, stopped, Loop.wake]

/-- It ends as it would, and only what comes behind its end depends on the
stop. -/
theorem finish_refreshing (loop : w.loop = some (.refreshing since))
    (unfinished : .finish ∉ es) (elapses : w.Elapses (es ++ [.finish])) :
    let cut := w.elapse (es ++ [.finish])
    let whole := w.elapse (es.map Happening.unstopped ++ [.finish])
    w.Elapses (es.map Happening.unstopped ++ [.finish]) ∧
      cut.shared = whole.shared ∧
      cut.metrics = whole.metrics ∧
      ((w.isStopped || es.any Happening.stops) = true →
        cut.loop = some (.ended .cancelled)) := by
  intro cut whole
  obtain ⟨same, both⟩ := elapse_refreshing loop unfinished w.isStopped
  obtain ⟨before, ⟨since, id, o, refreshing, cycle, ended⟩, -⟩ :=
    elapses_append.1 elapses
  let v := w.elapse (es.map Happening.unstopped)
  let stopped := w.isStopped || es.any Happening.stops
  rw [show w.halt w.isStopped = w from rfl] at same both
  rw [same] at refreshing cycle ended
  have can : v.CanHappen .finish := ⟨since, id, o, refreshing, cycle, ended⟩
  have hcut : cut = ((v.halt stopped).taken since id o).wake := by
    change w.elapse (es ++ [.finish]) = _
    rw [elapse_append, same]
    exact congrArg wake (finish_eq_taken refreshing cycle ended)
  have hwhole : whole = (v.taken since id o).wake := by
    change w.elapse (es.map Happening.unstopped ++ [.finish]) = _
    rw [elapse_append]
    exact congrArg wake (finish_eq_taken refreshing cycle ended)
  refine ⟨?_, ?_, ?_, fun stop => ?_⟩
  · exact elapses_append.2 ⟨both.1 before, can, trivial⟩
  · rw [hcut, hwhole, shared_wake, shared_wake]
    rfl
  · rw [hcut, hwhole, metrics_wake, metrics_wake]
    rfl
  · rw [hcut]
    exact wake_of_stopped rfl stop

/-! ### The end is in reach -/

/-- A stopped loop comes to its end by what the calls at work have before
them. -/
theorem end_in_reach (order : w.Orderly) (phase : Phase w j)
    (accounted : Accounted before w j)
    (queues : ∀ id, w.cycle = some id → w.Queues id)
    (stopped : w.isStopped = true) :
    ∃ rest, w.Elapses rest ∧ (w.elapse rest).loop = some (.ended .cancelled) ∧
      ∀ e ∈ rest,
        e = .finish ∨ ∃ t, e = .act (.grant t) ∨ e = .act (.advance t) := by
  -- By induction on what the calls have before them: the call of the loop has
  -- ended, or some call goes on.
  generalize size : w.left = n
  induction n using Nat.strong_induction_on generalizing w j with
  | _ n ih =>
      cases phase with
      | waiting loop cycle goes all =>
          rw [stopped] at goes
          cases goes
      | ended loop cycle stopped all => exact ⟨[], trivial, loop, by simp⟩
      | @refreshing since id loop cycle last one =>
          obtain ⟨t, ht, rfl, -⟩ := accounted.atWork id cycle
          cases ended : t.stage.outcome? with
          | some o =>
              have outcome : w.outcome? t.id = some o :=
                (outcome?_of_task order ht).trans ended
              refine ⟨[.finish],
                ⟨⟨since, t.id, o, loop, cycle, outcome⟩, trivial⟩, ?_, by simp⟩
              change w.finish.wake.loop = _
              rw [finish_eq_taken loop cycle outcome]
              exact wake_of_stopped rfl stopped
          | none =>
              obtain ⟨u, a, kind, allowed, less⟩ :=
                exists_step order (queues _ cycle) ht rfl ended
              have can : w.CanHappen (.act a) := by
                rcases kind with rfl | rfl <;> exact allowed
              have phase : Phase w j := .refreshing loop cycle last one
              obtain ⟨rest, elapses, done,
                  own⟩ := ih _ (size ▸ less) (order.happen can)
                (phase.happen can) (accounted.happen phase order can)
                (queues_happen order can queues)
                (isStopped_happen_of_stopped stopped _) rfl
              refine ⟨.act a :: rest, ⟨can, elapses⟩, done, ?_⟩
              intro e he
              rcases List.mem_cons.1 he with rfl | later
              · rcases kind with rfl | rfl
                · exact .inr ⟨u, .inl rfl⟩
                · exact .inr ⟨u, .inr rfl⟩
              · exact own e later

end

/-! ### Between two refreshes -/

/-- What a stop makes of a run that has come to `before`: the refreshes are
those that have started by then, and each one that starts without the stop
starts at its instant or later. A loop that is at no refresh ends at once. -/
structure CutShort (w : Watch) (before : List Happening) (clock : Nat)
    (wall : Instant) (after : List Happening) : Prop where
  cycles : (w.journal (before ++ .tick clock wall true :: after)).cycles =
    (w.journal before).cycles
  earlier : ∀ m ∈ (w.journal before).cycles,
    m.start.clock ≤ (w.entered.elapse before).clock
  later : ∀ rest, w.entered.Elapses (before ++ .tick clock wall false :: rest) →
    ∃ more, (w.journal (before ++ .tick clock wall false :: rest)).cycles =
        (w.journal before).cycles ++ more ∧ ∀ m ∈ more, clock ≤ m.start.clock
  atOnce :
      (∀ since, (w.entered.elapse before).loop ≠ some (.refreshing since)) →
        ((w.entered.elapse before).happen (.tick clock wall true)).loop =
          some (.ended .cancelled) ∧
          Untouched (w.entered.elapse before)
            ((w.entered.elapse before).happen (.tick clock wall true))

/-- What comes of a refresh at work while the loop may be stopped: it ends with
the same as it does without the stop, and the loop ends with it. -/
structure RunsOn (w : Watch) (during : List Happening) : Prop where
  elapses : w.Elapses (during.map Happening.unstopped ++ [.finish])
  shared : (w.elapse (during ++ [.finish])).shared =
    (w.elapse (during.map Happening.unstopped ++ [.finish])).shared
  metrics : (w.elapse (during ++ [.finish])).metrics =
    (w.elapse (during.map Happening.unstopped ++ [.finish])).metrics
  ended : (w.isStopped || during.any Happening.stops) = true →
    (w.elapse (during ++ [.finish])).loop = some (.ended .cancelled)

/-- What comes behind the end of a loop: it stays at its end, whoever is at work
is somebody else, and without others nobody asks, writes or puts anything in
place. -/
structure Leaves (w : Watch) (cause : RefreshError)
    (es : List Happening) : Prop where
  stays : ∀ rest, w.entered.Elapses (es ++ rest) →
    Retired cause (w.entered.elapse (es ++ rest)) (w.journal (es ++ rest)) ∧
      (w.entered.elapse (es ++ rest)).metrics = (w.entered.elapse es).metrics ∧
      (w.journal (es ++ rest)).cycles = (w.journal es).cycles
  quiet : (∀ t ∈ (w.entered.elapse es).tasks, t.stage.outcome? ≠ none) →
    ∀ rest, w.entered.Elapses (es ++ rest) → (∀ job, .act (.call job) ∉ rest) →
      Untouched (w.entered.elapse es) (w.entered.elapse (es ++ rest)) ∧
        (w.journal (es ++ rest)).asks = (w.journal es).asks

section

variable {w : Watch} {es : List Happening} {cause : RefreshError}

theorem Retired.leaves (h : Retired cause (w.entered.elapse es) (w.journal es))
    (order : (w.entered.elapse es).Orderly) : w.Leaves cause es where
  stays := by
    intro rest elapses
    rw [elapse_append, journal_append]
    exact h.elapse (elapses_append.1 elapses).2
  quiet := by
    intro gone rest elapses alone
    rw [elapse_append, journal_append]
    exact h.quiet_elapse order gone (elapses_append.1 elapses).2 alone

theorem cutShort {updated : Instant}
    (told : w.shared.store.lastUpdated = .ok updated) (idle : w.cycle = none)
    {before after : List Happening} {clock : Nat} {wall : Instant}
    (elapses : w.entered.Elapses (before ++ .tick clock wall true :: after)) :
    w.CutShort before clock wall after := by
  have sofar := (elapses_append.1 elapses).1
  constructor
  · have stopped :
        ((w.entered.elapse before).happen (.tick clock wall true)).isStopped =
          true := by
      rw [isStopped_happen]
      exact Bool.or_true _
    rw [journal_append, Journal.along, cycles_along_stopped stopped]
    exact cycles_after_stop (Bool.or_true _)
  · intro m hm
    have first := (cycles_look w.enter (Journal.opened w))
    obtain ⟨le, more, cycles, starts⟩ :=
      cycles_along (j := (Journal.opened w).look w.enter) sofar
    rw [entered, clock_wake] at le
    rw [journal, cycles] at hm
    rcases List.mem_append.1 hm with old | new
    · rcases first with none | ⟨-, one⟩
      · rw [none] at old
        cases old
      · rw [one] at old
        rw [List.mem_singleton.1 old]
        exact le
    · exact (starts m new).2
  · intro rest elapses
    -- The clock that the tick finds is no matter to what comes of it.
    let u : Watch := { w.entered.elapse before with clock }
    have ticks : u.Elapses (.tick clock wall false :: rest) :=
      ⟨Nat.le_refl _, (elapses_append.1 elapses).2.2⟩
    obtain ⟨-, more, cycles, starts⟩ :=
      cycles_along (j := w.journal before) ticks
    refine ⟨more, ?_, fun m hm => (starts m hm).1⟩
    rw [journal_append]
    exact cycles
  · intro still
    have phase : Phase (w.entered.elapse before) (w.journal before) :=
      phase_journal told idle sofar
    refine ⟨?_, ?_⟩
    · cases phase with
      | waiting loop cycle goes all =>
          exact wake_of_stopped (w :=
            (w.entered.elapse before).arrive clock wall true) loop
            (Bool.or_true _)
      | refreshing loop => exact absurd loop (still _)
      | ended loop =>
          rw [(tick_of_busy (w.journal before)
            (busy_of_ended loop) clock wall true).1]
          exact loop
    · have shared :
          ((w.entered.elapse before).happen (.tick clock wall true)).shared =
          (w.entered.elapse before).shared := shared_wake _
      exact ⟨by rw [shared], by rw [shared], by rw [shared], metrics_wake _⟩

theorem stopped_before_entry {updated : Instant}
    (told : w.shared.store.lastUpdated = .ok updated) (order : w.Orderly)
    (idle : w.cycle = none) (stopped : w.isStopped = true)
    (elapses : w.entered.Elapses es) :
    (w.entered.elapse es).loop = some (.ended .cancelled) ∧
      (w.journal es).cycles = [] ∧
      Untouched w w.entered := by
  have loop : w.entered.loop = some (.ended .cancelled) :=
    wake_of_stopped (loop_enter told) stopped
  obtain ⟨-, -, retired⟩ := (phase_entered told idle).retired
    ((accounted_opened order idle).look idle rfl) loop
  obtain ⟨last, -, cycles⟩ := retired.elapse elapses
  have shared : w.entered.shared = w.shared := shared_wake w.enter
  refine ⟨last.loop, cycles.trans ?_, by rw [shared], by rw [shared],
    by rw [shared], metrics_wake w.enter⟩
  refine (cycles_look w.enter (.opened w)).resolve_right fun other => ?_
  rw [show w.enter.isStopped = w.isStopped from rfl, stopped] at other
  cases other.1

theorem end_in_reach_journal {updated : Instant}
    (told : w.shared.store.lastUpdated = .ok updated) (order : w.Orderly)
    (idle : w.cycle = none) (elapses : w.entered.Elapses es)
    (stopped : (w.entered.elapse es).isStopped = true) :
    ∃ rest, (w.entered.elapse es).Elapses rest ∧
      ((w.entered.elapse es).elapse rest).loop = some (.ended .cancelled) ∧
      ∀ e ∈ rest,
        e = .finish ∨ ∃ t, e = .act (.grant t) ∨ e = .act (.advance t) := by
  have entry (id : Nat) (cycle : w.enter.cycle = some id) :
      w.enter.Queues id := by
    rw [show w.enter.cycle = w.cycle from rfl, idle] at cycle
    cases cycle
  have queues := queues_elapse order.entered elapses
    (queues_wake (w := w.enter) { order with } entry)
  exact end_in_reach (order.entered.elapse elapses)
    (phase_journal told idle elapses)
    (accounted_journal told order idle elapses) queues stopped

/-- A loop that cannot tell when the store was last updated ends at its entry,
stopped or not, and touches nothing. Any other one ends by a stop and by nothing
else, and always in the end. The stop may come before the entry, while the loop
waits, when the wait is over, or while a refresh is at work: what has not
started by then does not start, what is at work ends as it would have ended, and
nothing of the loop's comes behind it. -/
theorem loop_stops_between_refreshes (order : w.Orderly) (idle : w.cycle = none)
    (elapses : w.entered.Elapses es) :
    let v := w.entered.elapse es
    let j := w.journal es
    (∀ fault, w.shared.store.lastUpdated = .error fault →
      w.entered = { w with loop := some (.ended (.lastUpdated fault)) } ∧
        v.loop = some (.ended (.lastUpdated fault)) ∧ j.cycles = [] ∧
        w.Leaves (.lastUpdated fault) []) ∧
    ∀ updated, w.shared.store.lastUpdated = .ok updated →
      (∀ cause, v.loop = some (.ended cause) →
        cause = .cancelled ∧ v.isStopped = true ∧ w.Leaves .cancelled es) ∧
      (v.isStopped = true →
        (v.loop = some (.ended .cancelled) ∨
          ∃ since, v.loop = some (.refreshing since)) ∧
        ∃ rest, v.Elapses rest ∧
          (v.elapse rest).loop = some (.ended .cancelled) ∧
          ∀ e ∈ rest,
            e = .finish ∨ ∃ t, e = .act (.grant t) ∨ e = .act (.advance t)) ∧
      (w.isStopped = true →
        v.loop = some (.ended .cancelled) ∧ j.cycles = [] ∧
          Untouched w w.entered) ∧
      (∀ before clock wall after,
        es = before ++ .tick clock wall true :: after →
        w.CutShort before clock wall after) ∧
      ∀ before during rest since, es = before ++ (during ++ [.finish]) ++ rest →
        (w.entered.elapse before).loop = some (.refreshing since) →
          .finish ∉ during → (w.entered.elapse before).RunsOn during := by
  intro v j
  constructor
  · intro fault untold
    have retired := retired_entered untold idle
    obtain ⟨last, -, cycles⟩ := retired.elapse elapses
    refine ⟨entered_of_error untold, last.loop, cycles.trans ?_,
      Retired.leaves retired order.entered⟩
    rw [journal, Journal.along, look_of_busy]
    · rfl
    · simp [enter, Loop.start, untold]
  · intro updated told
    have phase : Phase v j := phase_journal told idle elapses
    refine ⟨fun cause loop => ?_, fun stopped => ⟨?_, ?_⟩,
      fun stopped => ?_, ?_, ?_⟩
    · obtain ⟨rfl, stopped, retired⟩ :=
        phase.retired (accounted_journal told order idle elapses) loop
      exact ⟨rfl, stopped, retired.leaves (order.entered.elapse elapses)⟩
    · cases phase with
      | waiting loop cycle goes all =>
          rw [stopped] at goes
          cases goes
      | refreshing loop => exact .inr ⟨_, loop⟩
      | ended loop => exact .inl loop
    · exact end_in_reach_journal told order idle elapses stopped
    · exact stopped_before_entry told order idle stopped elapses
    · rintro before clock wall after rfl
      exact cutShort told idle elapses
    · rintro before during rest since rfl loop unfinished
      obtain ⟨sofar, -⟩ := elapses_append.1 elapses
      obtain ⟨whole, shared, metrics, ended⟩ :=
        finish_refreshing loop unfinished (elapses_append.1 sofar).2
      exact ⟨whole, shared, metrics, ended⟩

end

/-! ### A run -/

/-- What comes of the first refresh of the sample, which is stopped while it
waits for the answer of the source. -/
def sampleStop : List Happening :=
  let detectors := [.contains [120]]
  [.act (.advance ⟨0, .update, .turn .update⟩),
    .tick 5 .epoch true,
    .act (.advance ⟨0, .update, .asked⟩),
    .act (.advance ⟨0, .update, .fetched sampleRules⟩),
    .act (.advance ⟨0, .update, .compiled sampleRules detectors⟩),
    .act (.advance ⟨0, .update, .ready detectors⟩)]

theorem sampleStop_runs_on :
    let v := sample.entered.elapse (sampleStop ++ [.finish])
    sample.entered.Elapses (sampleStop ++ [.finish]) ∧
      sample.entered.RunsOn sampleStop ∧
      v.loop = some (.ended .cancelled) ∧ v.shared.snapshot.count = 1 := by
  have elapses : sample.entered.Elapses (sampleStop ++ [.finish]) := by
    refine ⟨⟨.head _, rfl⟩, Nat.zero_le _, ⟨.head _, rfl⟩, ⟨.head _, rfl⟩,
      ⟨.head _, rfl⟩, ⟨.head _, rfl⟩, ⟨0, 0, .loaded 1, rfl, rfl, rfl⟩, trivial⟩
  have order : sample.Orderly := .of_idle rfl rfl
  have stops := (loop_stops_between_refreshes order rfl elapses).2 .epoch rfl
  have runsOn := stops.2.2.2.2 [] sampleStop [] 0 rfl rfl (by simp [sampleStop])
  exact ⟨elapses, runsOn, runsOn.ended rfl, rfl⟩

end Watch

end RuleWatch
