import RuleWatch.Proofs.ExactCounts
import RuleWatch.Proofs.Punctuality

/-!
What is measured of the loop. The numbers are noted at the end of each refresh,
and the detectors come in place before it, so while a refresh is at work the two
may differ; between refreshes they agree, as long as nobody but the loop puts
detectors in place. Main statement: whenever no refresh is at work, the numbers
are those of the refreshes that there have been, and of the detectors that
readers get.
-/

namespace RuleWatch

namespace Journal

/-- From when to when the refreshes have gone that have ended. -/
def spans (j : Journal) : List (Nat × Nat) := j.starts.zip j.ends

def lastDuration (j : Journal) : Decimal.Binary :=
  j.spans.getLast?.elim .zero fun span => Metrics.seconds (span.2 - span.1)

variable {j : Journal}

theorem spans_begun (all : j.cycles.length = j.ends.length) (c : Cycle) :
    ({ j with cycles := j.cycles ++ [c] } : Journal).spans = j.spans := by
  have length : j.starts.length = j.ends.length := by simp [starts, all]
  have zip : (j.starts ++ [c.start.clock]).zip (j.ends ++ []) =
      j.starts.zip j.ends ++ [] :=
    List.zip_append length
  simpa [spans, starts] using zip

theorem spans_ended {since : Nat} (one : j.cycles.length = j.ends.length + 1)
    (last : j.starts.getLast? = some since) (clock : Nat) :
    ({ j with ends := j.ends ++ [clock] } : Journal).spans =
      j.spans ++ [(since, clock)] := by
  obtain ⟨before, starts⟩ := List.getLast?_eq_some_iff.1 last
  have count : j.starts.length = j.ends.length + 1 := by
    rw [Journal.starts, List.length_map, one]
  have length : before.length = j.ends.length := by
    rw [starts, List.length_append, List.length_singleton] at count
    omega
  -- All starts but the last have their ends, so the new end meets the last
  -- start.
  change j.starts.zip (j.ends ++ [clock]) =
    j.starts.zip j.ends ++ [(since, clock)]
  have ended : (before ++ [since]).zip (j.ends ++ []) =
      before.zip j.ends ++ [] :=
    List.zip_append length
  rw [List.append_nil, List.append_nil] at ended
  rw [starts, List.zip_append length, ended]
  rfl

theorem lastDuration_of_last (all : j.cycles.length = j.ends.length)
    {start stop : Nat} (started : j.starts.getLast? = some start)
    (stopped : j.ends.getLast? = some stop) :
    j.lastDuration = Metrics.seconds (stop - start) := by
  have length : j.starts.length = j.ends.length := by simp [starts, all]
  obtain ⟨starts, hs⟩ := List.getLast?_eq_some_iff.1 started
  obtain ⟨ends, he⟩ := List.getLast?_eq_some_iff.1 stopped
  simp only [hs, he, List.length_append, List.length_singleton,
    Nat.add_right_cancel_iff] at length
  rw [lastDuration, spans, hs, he, List.zip_append length]
  simp

end Journal

namespace Metrics

variable (m : Metrics) (nanos : Nat)

theorem observe_refreshes (result : Except RefreshError Nat) :
    (m.observe result nanos).refreshes = increment m.refreshes := by
  cases result <;> rfl

theorem observe_failures (result : Except RefreshError Nat) :
    (m.observe result nanos).failures =
      if result.isOk then m.failures else increment m.failures := by
  cases result <;> rfl

theorem observe_duration (result : Except RefreshError Nat) :
    (m.observe result nanos).duration = seconds nanos := by
  cases result <;> rfl

end Metrics

namespace Stage

/-- How far a refresh has come, with how often it has asked the source. Until it
puts its detectors in place the number that is shown stays right, and behind
that its result is the right one. -/
inductive OnCourse (shown : Decimal.Binary) (count : Nat) : Nat → Stage → Prop
  | first (same : shown = Metrics.ofCount count) :
      OnCourse shown count 0 (.turn .update)
  | later {stage : Stage} (same : shown = Metrics.ofCount count)
      (working : stage.outcome? = none) (begun : ∀ job, stage ≠ .turn job) :
      OnCourse shown count 1 stage
  | failed {e : RefreshError} (same : shown = Metrics.ofCount count) :
      OnCourse shown count 1 (.done (.failed e))
  | loaded : OnCourse shown count 1 (.done (.loaded count))

variable {shown : Decimal.Binary} {count n : Nat} {now : Instant}
  {s s' : Shared} {stage next : Stage}

theorem OnCourse.same (h : OnCourse shown count n stage)
    (working : stage.outcome? = none) :
    shown = Metrics.ofCount count := by
  cases h with
  | loaded => cases working
  | first same => exact same
  | later same => exact same
  | failed same => exact same

theorem OnCourse.asked (h : OnCourse shown count n stage) :
    stage = .turn .update ∧ n = 0 ∨ stage ≠ .turn .update ∧ n = 1 := by
  cases h with
  | first => exact .inl ⟨rfl, rfl⟩
  | later _ _ begun => exact .inr ⟨begun _, rfl⟩
  | failed => exact .inr ⟨nofun, rfl⟩
  | loaded => exact .inr ⟨nofun, rfl⟩

/-- A refresh that ends leaves the right number behind. -/
theorem OnCourse.observe {m : Metrics} {o : Outcome}
    (h : OnCourse m.loaded count n (.done o)) (nanos : Nat) :
    n = 1 ∧ (m.observe o.result nanos).loaded = Metrics.ofCount count := by
  cases h with
  | later _ working => cases working
  | failed same => exact ⟨rfl, by rw [Outcome.result, Metrics.observe, same]⟩
  | loaded =>
      exact ⟨rfl, by rw [Outcome.result, Metrics.observe, Metrics.setLoaded]⟩

theorem OnCourse.steps (h : OnCourse shown s.snapshot.count n stage)
    (fits : stage.Fits .update) (working : stage.outcome? = none)
    (how : Steps now s stage next s') :
    OnCourse shown s'.snapshot.count 1 next := by
  have same := h.same working
  cases how with
  | ask => exact .later same rfl nofun
  | unfetched => exact .failed same
  | fetch => exact .later same rfl nofun
  | refuse => exact .failed same
  | compile => exact .later same rfl nofun
  | unwritten => exact .failed same
  | write => exact .later same rfl nofun
  | install => exact .loaded
  | stay => cases working
  | _ => cases fits

theorem Steps.of_read (how : Steps now s stage next s')
    (fits : stage.Fits .read) (working : stage.outcome? = none) :
    s' = s ∧ stage ≠ .turn .update := by
  cases how with
  | see => exact ⟨rfl, nofun⟩
  | stay => cases working
  | _ => cases fits

end Stage

def Task.IsPassive (t : Task) : Prop := t.job = .read ∨ t.stage.outcome? ≠ none

namespace Watch

def ending (w : Watch) : Happening → List (Except RefreshError Nat)
  | .finish => ((w.cycle.bind w.outcome?).map Outcome.result).toList
  | _ => []

def endings (w : Watch) : List Happening → List (Except RefreshError Nat)
  | [] => []
  | e :: es => w.ending e ++ (w.happen e).endings es

/-- Whether a refresh of the loop is at work, and how far it has come. -/
inductive Pending (w : Watch) (j : Journal) : Prop
  | rest (cycle : w.cycle = none)
      (idle : ∀ since, w.loop ≠ some (.refreshing since))
      (all : j.cycles.length = j.ends.length)
      (asks : j.asks.length = j.ends.length)
      (same : w.metrics.loaded = Metrics.ofCount w.shared.snapshot.count)
  | work {since : Nat} {t : Task} {n : Nat}
      (loop : w.loop = some (.refreshing since)) (cycle : w.cycle = some t.id)
      (one : j.cycles.length = j.ends.length + 1)
      (last : j.starts.getLast? = some since) (mem : t ∈ w.tasks)
      (job : t.job = .update)
      (course : t.stage.OnCourse w.metrics.loaded w.shared.snapshot.count n)
      (asks : j.asks.length = j.ends.length + n)

/-- The numbers are those of the refreshes that have ended, over a source that
had been called before. -/
structure Measured (before : Option Nat)
    (results : List (Except RefreshError Nat)) (w : Watch)
    (j : Journal) : Prop where
  on : w.isMeasured = true
  ended : results.length = j.ends.length
  refreshes : w.metrics.refreshes = Metrics.counted results.length
  failures : w.metrics.failures = Metrics.counted (results.countP (!·.isOk))
  duration : w.metrics.duration = j.lastDuration
  others : ∀ t ∈ w.tasks, w.cycle = some t.id ∨ t.IsPassive
  pending : Pending w j
  tally : w.shared.source.tally = before.map (· + j.asks.length)

section

variable {w v : Watch} {j k : Journal} {t : Task} {e : Happening}
  {es : List Happening} {before : Option Nat}
  {results : List (Except RefreshError Nat)}

theorem Pending.congr (h : Pending w j) (loop : v.loop = w.loop)
    (cycle : v.cycle = w.cycle)
    (tasks : ∀ t ∈ w.tasks, w.cycle = some t.id → t ∈ v.tasks)
    (metrics : v.metrics = w.metrics)
    (snapshot : v.shared.snapshot = w.shared.snapshot)
    (cycles : k.cycles = j.cycles) (ends : k.ends = j.ends)
    (asks : k.asks = j.asks) : Pending v k := by
  have starts : k.starts = j.starts := congrArg (List.map _) cycles
  cases h with
  | rest cycle' idle all asks' same =>
      exact .rest (by rw [cycle, cycle']) (by rwa [loop])
        (by rw [cycles, ends, all]) (by rw [asks, ends, asks'])
        (by rw [metrics, snapshot, same])
  | work loop' cycle' one last mem job course asks' =>
      exact .work (by rw [loop, loop']) (by rw [cycle, cycle'])
        (by rw [cycles, ends, one]) (by rw [starts, last]) (tasks _ mem cycle')
        job (by rwa [metrics, snapshot]) (by rw [asks, ends, asks'])

/-- A step of a call brings the refresh on its way, or changes nothing. -/
theorem Pending.advance (h : Pending w j)
    (others : ∀ t ∈ w.tasks, w.cycle = some t.id ∨ t.IsPassive)
    (order : w.Orderly) (ht : t ∈ w.tasks) (held : w.lock.holds t.id = true) :
    Pending (w.advance t) (j.note t) := by
  have how := steps_advance w t
  have working := (order.turn_mem_holders ht held).2
  have fits := order.fits t ht
  -- A call that is at work is the refresh of the loop itself, or else it only
  -- reads.
  by_cases own : w.cycle = some t.id
  · cases h with
    | rest cycle =>
        rw [cycle] at own
        cases own
    | @work since u n loop cycle one last mem job course asks =>
        obtain rfl := order.eq_of_id_eq mem ht
          (Option.some.inj (own.symm.trans cycle))
        rw [job] at fits
        have onward := course.steps fits working how
        rcases j.note_cases t with ⟨stage, noted⟩ | ⟨stage, noted⟩
        · obtain ⟨-, rfl⟩ := course.asked.resolve_right fun other =>
            other.1 stage
          rw [noted]
          refine .work (t := { t with stage := w.next t }) loop cycle one last
            (mem_advance_self ht) job onward ?_
          simpa using asks
        · obtain ⟨-, rfl⟩ := course.asked.resolve_left fun other =>
            stage other.1
          rw [noted]
          exact .work (t := { t with stage := w.next t }) loop cycle one last
            (mem_advance_self ht) job onward asks
  · have job : t.job = .read :=
      ((others t ht).resolve_left own).resolve_right fun ended => ended working
    rw [job] at fits
    obtain ⟨same, stage⟩ := how.of_read fits working
    have noted : j.note t = j :=
      ((j.note_cases t).resolve_left fun other => stage other.1).2
    rw [noted]
    refine h.congr rfl rfl (fun u hu cycle => mem_advance_of_ne hu ?_) rfl
      (by rw [same]) rfl rfl rfl
    rintro ids
    exact own (ids ▸ cycle)

theorem Measured.advance (h : Measured before results w j) (order : w.Orderly)
    (ht : t ∈ w.tasks) (held : w.lock.holds t.id = true) :
    Measured before results (w.advance t) (j.note t) := by
  have how := steps_advance w t
  have working := (order.turn_mem_holders ht held).2
  have pending := h.pending.advance h.others order ht held
  have others : ∀ u ∈ (w.advance t).tasks,
      w.cycle = some u.id ∨ u.IsPassive := by
    intro u hu
    rcases order.mem_tasks_advance ht hu with rfl | ⟨old, -⟩
    · exact (h.others t ht).imp_right fun passive =>
        .inl (passive.resolve_right fun ended =>
          ended working)
    · exact h.others u old
  rcases j.note_cases t with ⟨stage, noted⟩ | ⟨stage, noted⟩
  · have tally := (how.tally_eq.resolve_right fun other => other.1 stage).2
    rw [noted] at pending ⊢
    refine { h with others, pending, tally := ?_ }
    rw [tally, h.tally, Option.map_map]
    simp [Function.comp_def, Nat.add_assoc]
  · have tally := (how.tally_eq.resolve_left fun other => stage other.1).2
    rw [noted] at pending ⊢
    exact { h with others, pending, tally := tally.trans h.tally }

/-- A look at the loop may begin a refresh, which has not asked yet. -/
theorem Measured.look (h : Measured before results w j)
    (idle : w.cycle = none) :
    Measured before results w.wake (j.look w) := by
  cases h.pending with
  | work loop cycle =>
      rw [idle] at cycle
      cases cycle
  | rest cycle _ all asks same =>
      have how := looks w j
      generalize w.wake = v, j.look w = k at how
      cases how with
      | stop loop stopped =>
          exact { h with pending := .rest cycle nofun all asks same }
      | refresh loop goes due =>
          refine { h with duration := ?_, others := ?_, pending := ?_ }
          · rw [Journal.lastDuration, Journal.spans_begun all]
            exact h.duration
          · intro u hu
            rcases mem_tasks_enqueue hu with old | rfl
            · refine .inr ((h.others u old).resolve_left ?_)
              rw [idle]
              nofun
            · exact .inl rfl
          · refine .work (t := ⟨w.begun, .update, .turn .update⟩) rfl rfl ?_ ?_
              ?_ rfl (.first same) asks
            · simp [all]
            · simp [Journal.starts, now]
            · exact List.mem_append_right _ (List.mem_singleton_self _)
      | wait loop goes early => exact h
      | rest busy => exact h

theorem Measured.taken (h : Measured before results w j) (order : w.Orderly)
    {since id : Nat} {o : Outcome} (loop : w.loop = some (.refreshing since))
    (cycle : w.cycle = some id) (ended : w.outcome? id = some o) :
    Measured before (results ++ [o.result]) (w.taken since id o)
      { j with ends := j.ends ++ [w.clock] } := by
  cases h.pending with
  | rest none =>
      rw [none] at cycle
      cases cycle
  | @work since' t n loop' cycle' one last mem job course asks =>
      obtain rfl : since' = since := by simpa using loop'.symm.trans loop
      obtain rfl : t.id = id := by simpa using cycle'.symm.trans cycle
      obtain ⟨u, hu, same, stage⟩ := task_of_outcome? ended
      obtain rfl := order.eq_of_id_eq mem hu same
      have metrics : (w.taken since' u.id o).metrics =
          w.metrics.observe o.result (w.clock - since') := by
        rw [Watch.taken, if_pos h.on]
      rw [stage] at course
      obtain ⟨rfl, shown⟩ := course.observe (w.clock - since')
      exact {
        on := h.on
        ended := by simp [h.ended]
        refreshes := by
          rw [metrics, Metrics.observe_refreshes, h.refreshes,
            List.length_append]
          rfl
        failures := by
          rw [metrics, Metrics.observe_failures, h.failures, List.countP_append,
            List.countP_singleton]
          cases o.result <;> rfl
        duration := by
          rw [metrics, Metrics.observe_duration, Journal.lastDuration,
            Journal.spans_ended one last]
          simp
        others := by
          intro v hv
          obtain ⟨hv, ne⟩ := mem_forget.1 hv
          refine .inr ((h.others v hv).resolve_left fun own => ne ?_)
          simpa using own.symm.trans cycle
        pending := by
          refine .rest rfl (by simp [Watch.taken])
            (by simp [one]) (by simp [asks]) ?_
          rw [metrics, shown]
          rfl
        tally := h.tally }

theorem Measured.happen (h : Measured before results w j) (order : w.Orderly)
    (alone : ∀ job, e = .act (.call job) → job = .read) (can : w.CanHappen e) :
    Measured before (results ++ w.ending e) (w.happen e) (j.after w e) := by
  cases e with
  | act a =>
      rw [show w.ending _ = [] from rfl, List.append_nil]
      cases a with
      | call job =>
          obtain rfl := alone job rfl
          refine { h with others := ?_, pending := ?_ }
          · intro u hu
            rcases mem_tasks_enqueue hu with old | rfl
            · exact h.others u old
            · exact .inr (.inl rfl)
          · exact h.pending.congr rfl rfl
              (fun u hu _ => List.mem_append_left _ hu) rfl rfl rfl rfl rfl
      | grant t =>
          exact { h with
            pending :=
              h.pending.congr rfl rfl (fun _ hu _ => hu) rfl rfl rfl rfl rfl }
      | advance t => exact h.advance order can.1 can.2
      | outside source x wall =>
          exact { h with
            pending :=
              h.pending.congr rfl rfl (fun _ hu _ => hu) rfl rfl rfl rfl rfl
            tally := can.1.trans h.tally }
  | tick clock wall stops =>
      rw [show w.ending _ = [] from rfl, List.append_nil]
      have same : Measured before results (w.arrive clock wall stops)
          { j with instants := j.instants ++ [⟨clock, wall⟩] } := { h with
        pending :=
          h.pending.congr rfl rfl (fun _ hu _ => hu) rfl rfl rfl rfl rfl }
      cases h.pending with
      | rest cycle => exact same.look cycle
      | work loop =>
          -- The loop does not look at a tick while it waits for its refresh.
          obtain ⟨rests, noted⟩ :=
            tick_of_busy j (busy_of_refreshing loop) clock wall stops
          rw [rests, noted]
          exact same
  | finish =>
      obtain ⟨since, id, o, loop, cycle, ended⟩ := can
      have taken := h.taken order loop cycle ended
      rw [Watch.happen, Journal.after, finish_eq_taken loop cycle ended]
      have ending : w.ending .finish = [o.result] := by
        simp [Watch.ending, cycle, ended]
      rw [ending]
      exact taken.look rfl

theorem Measured.elapse (h : Measured before results w j) (order : w.Orderly)
    (alone : ∀ job, .act (.call job) ∈ es → job = .read)
    (elapses : w.Elapses es) :
    Measured before (results ++ w.endings es) (w.elapse es) (j.along w es) := by
  induction es generalizing w j results with
  | nil =>
      rw [endings, List.append_nil]
      exact h
  | cons e es ih =>
      have first :=
        h.happen order (fun job same => alone job (same ▸ .head _)) elapses.1
      have rest := ih first (order.happen elapses.1)
        (fun job mem => alone job (.tail _ mem)) elapses.2
      rwa [List.append_assoc] at rest

theorem measured_entered (idle : w.cycle = none) (on : w.isMeasured = true)
    (fresh : w.metrics = ({} : Metrics).setLoaded w.shared.snapshot.count)
    (others : ∀ t ∈ w.tasks, t.IsPassive) :
    Measured w.shared.source.tally [] w.entered
      ((Journal.opened w).look w.enter) := by
  have enters : Measured w.shared.source.tally [] w.enter (.opened w) := {
    on
    ended := rfl
    refreshes := congrArg Metrics.refreshes fresh
    failures := congrArg Metrics.failures fresh
    duration := congrArg Metrics.duration fresh
    others := fun t ht => .inr (others t ht)
    pending := .rest idle w.idle_enter rfl rfl (congrArg Metrics.loaded fresh)
    tally := by
      change w.shared.source.tally = w.shared.source.tally.map (· + 0)
      simp }
  exact enters.look idle

/-- The numbers account for the refreshes of the loop, when they are fresh at
its entry and when nobody else puts detectors in place. Whatever the source
answers, whatever fails and whenever the loop is stopped: between refreshes and
behind the end, the refreshes and their calls of the source are counted, and
those that have failed; the number of detectors is that of the snapshot, and the
duration is that of the last refresh. -/
theorem metrics_account_for_refreshes (order : w.Orderly)
    (idle : w.cycle = none) (on : w.isMeasured = true)
    (fresh : w.metrics = ({} : Metrics).setLoaded w.shared.snapshot.count)
    (others : ∀ t ∈ w.tasks, t.IsPassive)
    (alone : ∀ job, .act (.call job) ∈ es → job = .read)
    (elapses : w.entered.Elapses es)
    (rests : ∀ since, (w.entered.elapse es).loop ≠ some (.refreshing since))
    (few : (w.journal es).cycles.length < 2 ^ 53)
    (small : (w.entered.elapse es).shared.snapshot.count < 2 ^ 53) :
    let v := w.entered.elapse es
    let j := w.journal es
    let results := w.entered.endings es
    v.metrics.refreshes.Equals j.cycles.length ∧
      j.asks.length = j.cycles.length ∧
      v.shared.source.tally = w.shared.source.tally.map (· + j.cycles.length) ∧
      results.length = j.cycles.length ∧
      v.metrics.failures.Equals (results.countP (!·.isOk)) ∧
      v.metrics.loaded.Equals v.shared.snapshot.count ∧
      (∀ start stop, j.starts.getLast? = some start →
        j.ends.getLast? = some stop →
        v.metrics.duration = Metrics.seconds (stop - start)) ∧
      (j.cycles = [] → v.metrics.duration.Equals 0) := by
  intro v j results
  have measured : Measured w.shared.source.tally results v j :=
    (measured_entered idle on fresh others).elapse order.entered alone elapses
  cases measured.pending with
  | work loop => exact absurd loop (rests _)
  | rest cycle idle all asks same =>
      have count : results.length = j.cycles.length :=
        measured.ended.trans all.symm
      have bound : results.countP (!·.isOk) < 2 ^ 53 :=
        Nat.lt_of_le_of_lt List.countP_le_length (count ▸ few)
      refine ⟨?_, asks.trans all.symm, ?_, count, ?_, ?_, ?_, ?_⟩
      · rw [measured.refreshes, count, Metrics.counted_eq_whole few]
        exact Decimal.Binary.equals_whole few
      · rw [measured.tally, asks, all]
      · rw [measured.failures, Metrics.counted_eq_whole bound]
        exact Decimal.Binary.equals_whole bound
      · rw [same, Metrics.ofCount_eq_whole small]
        exact Decimal.Binary.equals_whole small
      · intro start stop started stopped
        rw [measured.duration, Journal.lastDuration_of_last all started stopped]
      · intro none
        have spans : j.spans = [] := by
          simp [Journal.spans, Journal.starts, none]
        rw [measured.duration, Journal.lastDuration, spans]
        exact Decimal.Binary.equals_whole (n := 0) (by decide)

end

/-! ### A run -/

def sampleRefreshes : List Happening :=
  let detectors := [.contains [120]]
  sampleTicks ++
    [.act (.advance ⟨1, .update, .asked⟩),
      .act (.advance ⟨1, .update, .fetched sampleRules⟩),
      .act (.advance ⟨1, .update, .compiled sampleRules detectors⟩),
      .tick 2300 ⟨0, 2700⟩ true,
      .act (.advance ⟨1, .update, .ready detectors⟩),
      .finish]

/-- One of two refreshes has failed, and the other one has loaded one detector
in 300 nanoseconds before the loop has found itself stopped. -/
theorem sampleRefreshes_are_measured :
    let v := ticking.entered.elapse sampleRefreshes
    ticking.entered.Elapses sampleRefreshes ∧
      v.loop = some (.ended .cancelled) ∧
      v.metrics.refreshes.Equals 2 ∧ v.metrics.failures.Equals 1 ∧
        v.metrics.loaded.Equals 1 ∧
        v.metrics.duration = Metrics.seconds 300 := by
  have before {a b : Nat} (le : a.ble b = true) : a ≤ b :=
    Nat.le_of_ble_eq_true le
  have elapses : ticking.entered.Elapses sampleRefreshes :=
    elapses_append.2 ⟨undisturbed_sampleTicks.elapses, ⟨.head _, rfl⟩,
      ⟨.head _, rfl⟩, ⟨.head _, rfl⟩, before rfl, ⟨.head _, rfl⟩,
      ⟨2000, 1, .loaded 1, rfl, rfl, rfl⟩, trivial⟩
  have ended : (ticking.entered.elapse sampleRefreshes).loop =
      some (.ended .cancelled) := rfl
  have rests (since : Nat) :
      (ticking.entered.elapse sampleRefreshes).loop ≠
        some (.refreshing since) := by
    rw [ended]
    nofun
  obtain ⟨refreshes, -, -, -, failures, loaded, duration, -⟩ :=
    metrics_account_for_refreshes undisturbed_sampleTicks.order rfl rfl rfl
      (fun t ht => absurd ht List.not_mem_nil)
      (by simp [sampleRefreshes, sampleTicks]) elapses rests
      (before rfl) (before rfl)
  exact ⟨elapses, ended, refreshes, failures, loaded,
    duration 2000 2300 rfl rfl⟩

end Watch

end RuleWatch
