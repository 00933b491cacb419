import RuleWatch.Proofs.Accounts

/-!
The schedule of a loop that is not stopped. Each refresh starts at the first
instant of the clock at or behind its deadline, which is known from the entry
and from the end of the refresh before it. How a refresh ends is no matter, and
each asks the source exactly once.
-/

namespace RuleWatch

/-- The deadlines of all refreshes so far and of the next one: the first one
comes from the entry, each other one from the end of a refresh. -/
def Journal.deadlines (j : Journal) (first interval : Nat) : List Nat :=
  first :: j.ends.map (· + interval)

namespace Watch

section

variable {w : Watch} {j : Journal} {e : Happening} {es : List Happening}
  {first interval deadline : Nat}

/-! ### Instants and starts -/

theorem find?_eq_some_of_last {l : List Nat} {d now : Nat} (mem : now ∈ l)
    (due : d ≤ now) (last : ∀ c ∈ l, d ≤ c → c = now) :
    l.find? (d ≤ ·) = some now := by
  cases found : l.find? (d ≤ ·) with
  | none =>
      have := List.find?_eq_none.1 found now mem
      simp [due] at this
  | some c =>
      have le := List.find?_some found
      rw [last c (List.mem_of_find?_eq_some found) (of_decide_eq_true le)]

/-- What has started so far has started in time, and nothing has started too
soon after another start. -/
structure Timed (first interval : Nat) (w : Watch) (j : Journal) : Prop where
  same : w.interval = interval
  here : w.clock ∈ j.clocks
  past : ∀ c ∈ j.clocks, c ≤ w.clock
  started : ∀ (k d s : Nat), (j.deadlines first interval)[k]? = some d →
    j.starts[k]? = some s → j.clocks.find? (d ≤ ·) = some s
  begun : ∀ s ∈ j.starts, s ≤ w.clock
  spaced : j.starts.Pairwise fun a b => a + interval ≤ b

/-- A loop that waits has the deadline of its next refresh before it. -/
structure Punctual (first interval : Nat) (w : Watch) (j : Journal) : Prop
    extends Timed first interval w j where
  next : ∀ deadline, w.loop = some (.waiting deadline) →
    (j.deadlines first interval)[j.cycles.length]? = some deadline ∧
      (∀ c ∈ j.clocks, c < deadline) ∧ ∀ s ∈ j.starts, s + interval ≤ deadline

theorem Timed.look (h : Timed first interval w j)
    (loop : w.loop = some (.waiting deadline)) (goes : w.isStopped = false)
    (next : (j.deadlines first interval)[j.cycles.length]? = some deadline)
    (last : ∀ c ∈ j.clocks, deadline ≤ c → c = w.clock)
    (later : ∀ s ∈ j.starts, s + interval ≤ deadline) :
    Punctual first interval w.wake (j.look w) := by
  have how := looks w j
  generalize w.wake = v, j.look w = k at how
  cases how with
  | stop loop' stopped =>
      rw [goes] at stopped
      cases stopped
  | wait loop' goes early =>
      obtain rfl : _ = deadline :=
        Loop.waiting.inj (Option.some.inj (loop'.symm.trans loop))
      refine { h with next := fun d waits => ?_ }
      obtain rfl : _ = d :=
        Loop.waiting.inj (Option.some.inj (loop.symm.trans waits))
      exact ⟨next, fun c hc => Nat.lt_of_le_of_lt (h.past c hc) early, later⟩
  | rest busy => exact absurd loop (busy deadline)
  | refresh loop' goes due =>
      obtain rfl : _ = deadline :=
        Loop.waiting.inj (Option.some.inj (loop'.symm.trans loop))
      have starts :
          ({ j with cycles := j.cycles ++ [⟨w.begun, w.now⟩] } :
            Journal).starts =
          j.starts ++ [w.clock] := by simp [Journal.starts, now]
      have length : j.starts.length = j.cycles.length := by
        simp [Journal.starts]
      constructor
      case next => intro d waits; cases waits
      constructor
      · exact h.same
      · exact h.here
      · exact h.past
      · intro k d s hd hs
        rw [starts, List.getElem?_append] at hs
        split at hs
        · exact h.started k d s hd hs
        · -- The refresh that begins now is the one that the deadline was for.
          rename_i notBefore
          have lt := (List.getElem?_eq_some_iff.1 hs).1
          rw [List.length_singleton] at lt
          obtain rfl : k = j.cycles.length := by omega
          obtain rfl := Option.some.inj (next.symm.trans hd)
          rw [List.mem_singleton.1 (List.mem_of_getElem? hs)]
          exact find?_eq_some_of_last h.here due last
      · intro s hs
        rw [starts] at hs
        rcases List.mem_append.1 hs with old | new
        · exact h.begun s old
        · rw [List.mem_singleton.1 new]
          exact Nat.le_refl _
      · rw [starts]
        refine List.pairwise_append.2 ⟨h.spaced, List.pairwise_singleton _ _,
          fun a ha b hb => ?_⟩
        rw [List.mem_singleton.1 hb]
        exact Nat.le_trans (later a ha) due

theorem Punctual.tick (h : Punctual first interval w j) (phase : Phase w j)
    {clock : Nat} (wall : Instant) (forward : w.clock ≤ clock) :
    Punctual first interval (w.happen (.tick clock wall false))
      (j.after w (.tick clock wall false)) := by
  let v := w.arrive clock wall false
  let k : Journal := { j with instants := j.instants ++ [⟨clock, wall⟩] }
  have clocks : k.clocks = j.clocks ++ [clock] := by simp [k, Journal.clocks]
  have here : clock ∈ k.clocks := by simp [clocks]
  have past : ∀ c ∈ k.clocks, c ≤ clock := by
    intro c hc
    rw [clocks] at hc
    rcases List.mem_append.1 hc with old | new
    · exact Nat.le_trans (h.past c old) forward
    · exact Nat.le_of_eq (List.mem_singleton.1 new)
  have started (n d s : Nat) (hd : (j.deadlines first interval)[n]? = some d)
      (hs : j.starts[n]? = some s) : k.clocks.find? (d ≤ ·) = some s := by
    rw [clocks, List.find?_append, h.started n d s hd hs, Option.some_or]
  have timed : Timed first interval v k :=
    ⟨h.same, here, past, started,
      fun s hs => Nat.le_trans (h.begun s hs) forward, h.spaced⟩
  cases phase with
  | @waiting deadline loop cycle goes all =>
      obtain ⟨next, early, later⟩ := h.next deadline loop
      change Punctual first interval v.wake (k.look v)
      refine timed.look loop (by simp [v, arrive, goes])
        next (fun c hc due => ?_) later
      rw [clocks] at hc
      rcases List.mem_append.1 hc with old | new
      · exact absurd due (Nat.not_le_of_lt (early c old))
      · exact List.mem_singleton.1 new
  | refreshing loop cycle last one =>
      have busy := busy_of_refreshing loop
      obtain ⟨same, noted⟩ := tick_of_busy j busy clock wall false
      rw [same, noted]
      exact { timed with next := fun d waits => absurd waits (busy d) }
  | ended loop cycle stopped all =>
      have busy := busy_of_ended loop
      obtain ⟨same, noted⟩ := tick_of_busy j busy clock wall false
      rw [same, noted]
      exact { timed with next := fun d waits => absurd waits (busy d) }

theorem Punctual.finish (h : Punctual first interval w j) (phase : Phase w j)
    (goes : w.isStopped = false) (can : w.CanHappen .finish) :
    Punctual first interval (w.happen .finish) (j.after w .finish) := by
  obtain ⟨since, id, o, loop, cycle, ended⟩ := can
  obtain one : j.cycles.length = j.ends.length + 1 := by
    cases phase with
    | refreshing loop' cycle' last one => exact one
    | waiting loop' => rw [loop] at loop'; cases loop'
    | ended loop' => rw [loop] at loop'; cases loop'
  let v := w.taken since id o
  let k : Journal := { j with ends := j.ends ++ [w.clock] }
  have deadlines : k.deadlines first interval =
      j.deadlines first interval ++ [w.clock + w.interval] := by
    simp [k, Journal.deadlines, h.same]
  have length : (j.deadlines first interval).length = j.cycles.length := by
    simp [Journal.deadlines, one]
  have timed : Timed first interval v k := by
    refine ⟨h.same, h.here, h.past, fun n d s hd hs => ?_, h.begun, h.spaced⟩
    have lt : n < j.cycles.length := by
      have := (List.getElem?_eq_some_iff.1 hs).1
      simpa [k, Journal.starts] using this
    rw [deadlines, List.getElem?_append_left (by omega)] at hd
    exact h.started n d s hd hs
  rw [happen, Journal.after, finish_eq_taken loop cycle ended]
  change Punctual first interval v.wake (k.look v)
  refine timed.look rfl goes ?_ ?_ ?_
  · rw [deadlines, ← length, List.getElem?_concat_length]
  · intro c hc due
    have := h.past c hc
    change w.clock + w.interval ≤ c at due
    change c = w.clock
    omega
  · intro s hs
    rw [h.same]
    exact Nat.add_le_add_right (h.begun s hs) _

theorem Punctual.act (h : Punctual first interval w j) (a : Action) :
    Punctual first interval (w.happen (.act a)) (j.after w (.act a)) := by
  obtain ⟨loop, -, -, sameInterval, clock, instants, cycles,
      ends⟩ := act_loop w j a
  have clocks : (j.after w (.act a)).clocks = j.clocks :=
    congrArg (List.map _) instants
  have starts : (j.after w (.act a)).starts = j.starts :=
    congrArg (List.map _) cycles
  have deadlines : (j.after w (.act a)).deadlines first interval =
      j.deadlines first interval := by
    rw [Journal.deadlines, Journal.deadlines, ends]
  constructor
  case next =>
      rw [Watch.happen, loop, clocks, starts, deadlines, cycles]
      exact h.next
  constructor
  · exact sameInterval.trans h.same
  · rw [Watch.happen, clock, clocks]
    exact h.here
  · rw [Watch.happen, clock, clocks]
    exact h.past
  · rw [deadlines, clocks, starts]
    exact h.started
  · rw [Watch.happen, starts, clock]
    exact h.begun
  · rw [starts]
    exact h.spaced

theorem Punctual.happen (h : Punctual first interval w j) (phase : Phase w j)
    (goes : w.isStopped = false) (can : w.CanHappen e)
    (unstopped : e.stops = false) :
    Punctual first interval (w.happen e) (j.after w e) := by
  cases e with
  | act a => exact h.act a
  | tick clock wall stops =>
      obtain rfl : stops = false := unstopped
      exact h.tick phase wall can
  | finish => exact h.finish phase goes can

theorem Punctual.elapse (h : Punctual first interval w j) (phase : Phase w j)
    (goes : w.isStopped = false) (elapses : w.Elapses es)
    (unstopped : ∀ e ∈ es, e.stops = false) :
    Punctual first interval (w.elapse es) (j.along w es) := by
  let P (w : Watch) (j : Journal) : Prop :=
    Punctual first interval w j ∧ Phase w j ∧ w.isStopped = false
  have step {v : Watch} {k : Journal} {e : Happening} (here : e ∈ es)
      (so : P v k) (can : v.CanHappen e) : P (v.happen e) (k.after v e) := by
    obtain ⟨h, phase, goes⟩ := so
    refine ⟨h.happen phase goes can (unstopped e here), phase.happen can, ?_⟩
    rw [isStopped_happen, goes, unstopped e here]
    rfl
  have all : P (w.elapse es) (j.along w es) :=
    elapse_induction step ⟨h, phase, goes⟩ elapses
  exact all.1

theorem punctual_entered {updated : Instant}
    (told : w.shared.store.lastUpdated = .ok updated)
    (goes : w.isStopped = false) :
    Punctual (w.clock + initialDelay updated w.wall w.interval)
      w.interval w.entered ((Journal.opened w).look w.enter) := by
  have timed : Timed (w.clock + initialDelay updated w.wall w.interval)
      w.interval w.enter (.opened w) := by
    refine ⟨rfl, ?_, ?_, ?_, ?_, .nil⟩
    · exact List.mem_singleton_self _
    · exact fun c hc => Nat.le_of_eq (List.mem_singleton.1 hc)
    · intro k d s _ hs
      cases hs
    · intro s hs
      cases hs
  exact timed.look (loop_enter told) goes rfl
    (fun c hc _ => List.mem_singleton.1 hc) fun s hs => by cases hs

/-- What has started by now is what the instants that the clock has shown so far
ask for. -/
theorem Punctual.starts_eq (h : Punctual first interval w j) (phase : Phase w j)
    (goes : w.isStopped = false) (k : Nat) :
    j.starts[k]? = (j.deadlines first interval)[k]?.bind fun d =>
      j.clocks.find? (d ≤ ·) := by
  have starts : j.starts.length = j.cycles.length := by simp [Journal.starts]
  have deadlines : (j.deadlines first interval).length = j.ends.length + 1 := by
    simp [Journal.deadlines]
  cases hd : (j.deadlines first interval)[k]? with
  | none =>
      have past := List.getElem?_eq_none_iff.1 hd
      refine List.getElem?_eq_none ?_
      cases phase <;> omega
  | some d =>
      cases hs : j.starts[k]? with
      | some s => exact (h.started k d s hd hs).symm
      | none =>
          -- The next refresh is the only one that has a deadline and no start.
          have lt := (List.getElem?_eq_some_iff.1 hd).1
          have le := List.getElem?_eq_none_iff.1 hs
          cases phase with
          | @waiting deadline loop cycle goes all =>
              obtain ⟨next, early, -⟩ := h.next deadline loop
              obtain rfl : k = j.cycles.length := by omega
              obtain rfl := Option.some.inj (next.symm.trans hd)
              refine (List.find?_eq_none.2 fun c hc due => ?_).symm
              exact absurd (of_decide_eq_true due)
                (Nat.not_le_of_lt (early c hc))
          | refreshing loop cycle last one => omega
          | ended loop cycle stopped all =>
              rw [goes] at stopped
              cases stopped

theorem isStopped_elapse (goes : w.isStopped = false)
    (unstopped : ∀ e ∈ es, e.stops = false) :
    (w.elapse es).isStopped = false := by
  induction es generalizing w with
  | nil => exact goes
  | cons e es ih =>
      obtain ⟨stops, rest⟩ := List.forall_mem_cons.1 unstopped
      refine ih ?_ rest
      rw [isStopped_happen, goes, stops]
      rfl

end

/-! ### The schedule -/

/-- A run of a loop, from its entry on, in which it can tell when the store was
last updated and is not stopped. -/
structure Undisturbed (w : Watch) (updated : Instant)
    (es : List Happening) : Prop where
  order : w.Orderly
  /-- No refresh of an earlier loop is at work. -/
  idle : w.cycle = none
  told : w.shared.store.lastUpdated = .ok updated
  goes : w.isStopped = false
  elapses : w.entered.Elapses es
  unstopped : ∀ e ∈ es, e.stops = false

section

variable {w : Watch} {updated : Instant} {es : List Happening}

theorem Undisturbed.goes_on (h : w.Undisturbed updated es) :
    (w.entered.elapse es).isStopped = false := by
  refine isStopped_elapse ?_ h.unstopped
  rw [entered, isStopped_wake]
  exact h.goes

theorem Undisturbed.phase (h : w.Undisturbed updated es) :
    Phase (w.entered.elapse es) (w.journal es) :=
  phase_journal h.told h.idle h.elapses

theorem Undisturbed.punctual (h : w.Undisturbed updated es) :
    Punctual (w.clock + initialDelay updated w.wall w.interval) w.interval
      (w.entered.elapse es) (w.journal es) := by
  refine (punctual_entered h.told h.goes).elapse (phase_entered h.told h.idle)
    ?_ h.elapses h.unstopped
  rw [entered, isStopped_wake]
  exact h.goes

theorem Undisturbed.accounted (h : w.Undisturbed updated es) :
    Accounted w.shared.source.tally (w.entered.elapse es) (w.journal es) :=
  accounted_journal h.told h.order h.idle h.elapses

/-- The first start comes from the entry, and every other one from the end of
the refresh before it. -/
theorem Undisturbed.starts_eq (h : w.Undisturbed updated es) :
    let j := w.journal es
    j.starts.head? =
      j.clocks.find? (w.clock + initialDelay updated w.wall w.interval ≤ ·) ∧
      ∀ k : Nat, j.starts[k + 1]? =
        j.ends[k]?.bind fun ended =>
          j.clocks.find? (ended + w.interval ≤ ·) := by
  intro j
  have starts := h.punctual.starts_eq h.phase h.goes_on
  constructor
  · rw [List.head?_eq_getElem?, starts 0]
    rfl
  · intro k
    rw [starts (k + 1), Journal.deadlines, List.getElem?_cons_succ,
      List.getElem?_map]
    cases (w.journal es).ends[k]? <;> rfl

/-- A loop that is not stopped keeps its schedule, whatever its refreshes end
with and however long they take. It never ends. Each refresh starts at the first
instant of the clock at or behind its deadline: the first one a delay after the
entry, every other one an interval after the end of the one before it. So starts
are an interval apart at least, and nothing but the instants and the ends has a
part in them. Each refresh asks the source once, and nobody asks it but the
refreshes and the calls of others. -/
theorem schedule_is_kept (h : w.Undisturbed updated es) :
    let v := w.entered.elapse es
    let j := w.journal es
    let first := w.clock + initialDelay updated w.wall w.interval
    ((∃ deadline, v.loop = some (.waiting deadline)) ∧
      j.starts.length = j.ends.length ∨
      (∃ since, v.loop = some (.refreshing since)) ∧
        j.starts.length = j.ends.length + 1) ∧
    j.starts.head? = j.clocks.find? (first ≤ ·) ∧
    (∀ k : Nat, j.starts[k + 1]? =
      j.ends[k]?.bind fun ended => j.clocks.find? (ended + w.interval ≤ ·)) ∧
    j.starts.Pairwise (fun a b => a + w.interval ≤ b) ∧
    (∀ (w' : Watch) (updated' : Instant) (es' : List Happening),
      w'.Undisturbed updated' es' →
      w'.clock + initialDelay updated' w'.wall w'.interval =
        first → w'.interval = w.interval →
      (w'.journal es').clocks = j.clocks → (w'.journal es').ends = j.ends →
      (w'.journal es').starts = j.starts) ∧
    (∀ (k id : Nat), j.calls[k]? = some id →
      j.asks.count id ≤ 1 ∧ (k < j.ends.length → j.asks.count id = 1)) ∧
    (∀ id ∈ j.asks, id ∈ j.calls ∨ id ∈ j.called) ∧
    v.shared.source.tally = w.shared.source.tally.map (· + j.asks.length) := by
  intro v j first
  obtain ⟨head, later⟩ := h.starts_eq
  have length : j.starts.length = j.cycles.length := by simp [Journal.starts]
  refine ⟨?_, head, later, h.punctual.spaced, ?_,
    fun k id => h.accounted.count_asks h.phase, h.accounted.asked,
    h.accounted.tally⟩
  · rw [length]
    cases h.phase with
    | waiting loop cycle goes all => exact .inl ⟨⟨_, loop⟩, all⟩
    | refreshing loop cycle last one => exact .inr ⟨⟨_, loop⟩, one⟩
    | ended loop cycle stopped all =>
        rw [h.goes_on] at stopped
        cases stopped
  · intro w' updated' es' h' sameFirst sameInterval clocks ends
    obtain ⟨head', later'⟩ := h'.starts_eq
    refine List.ext_getElem? fun k => ?_
    cases k with
    | zero =>
        rw [← List.head?_eq_getElem?, ← List.head?_eq_getElem?, head', head,
          sameFirst, clocks]
    | succ k => rw [later', later, sameInterval, clocks, ends]

end

/-! ### A run -/

def ticking : Watch :=
  start ⟨.memory {},
    .script { queue := [.error (.unavailable "closed"), .ok sampleRules] },
    .initial⟩ true 1000 ⟨0, 400⟩

/-- A refresh that fails and takes 200 nanoseconds, and the next one. -/
def sampleTicks : List Happening :=
  [.tick 500 ⟨0, 900⟩ false,
    .tick 700 ⟨0, 1100⟩ false,
    .act (.advance ⟨0, .update, .turn .update⟩),
    .act (.advance ⟨0, .update, .asked⟩),
    .tick 900 ⟨0, 1300⟩ false,
    .finish,
    .tick 1800 ⟨0, 2200⟩ false,
    .tick 2000 ⟨0, 2400⟩ false,
    .act (.advance ⟨1, .update, .turn .update⟩)]

theorem undisturbed_sampleTicks : ticking.Undisturbed .epoch sampleTicks where
  order := .of_idle rfl rfl
  idle := rfl
  told := rfl
  goes := rfl
  elapses := by
    have before {a b : Nat} (le : a.ble b = true) : a ≤ b :=
      Nat.le_of_ble_eq_true le
    exact ⟨before rfl, before rfl, ⟨.head _, rfl⟩, ⟨.head _, rfl⟩, before rfl,
      ⟨700, 0, .failed (.fetch (.unavailable "closed")), rfl, rfl, rfl⟩,
      before rfl, before rfl, ⟨.head _, rfl⟩, trivial⟩
  unstopped := by decide

/-- The second start is the first instant one interval after the end of the
failed refresh. -/
theorem sampleTicks_keep_schedule :
    let j := ticking.journal sampleTicks
    ticking.Undisturbed .epoch sampleTicks ∧
      j.starts = [700, 2000] ∧ j.ends = [900] ∧
      j.starts[1]? =
        j.ends[0]?.bind fun ended => j.clocks.find? (ended + 1000 ≤ ·) :=
  ⟨undisturbed_sampleTicks, rfl, rfl,
    (schedule_is_kept undisturbed_sampleTicks).2.2.1 0⟩

end Watch

end RuleWatch
