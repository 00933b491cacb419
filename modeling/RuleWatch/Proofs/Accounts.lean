import RuleWatch.Proofs.Timeline

/-!
Who calls the source. Every call at work is the one that the loop waits for or
somebody else's, and each refresh of the loop asks the source once. Main
statement: this is kept by whatever happens, so that all calls of the source are
accounted for.
-/

namespace RuleWatch

namespace Stage

variable {now : Instant} {s s' : Shared} {stage next : Stage}

/-- The source is asked with the first step of an update and with no other
one. -/
theorem Steps.tally_eq (how : Steps now s stage next s') :
    (stage = .turn .update ∧ s'.source.tally = s.source.tally.map (· + 1)) ∨
      stage ≠ .turn .update ∧ s'.source.tally = s.source.tally := by
  cases how with
  | ask => exact .inl ⟨rfl, Source.tally_ask _⟩
  | unfetched => exact .inr ⟨nofun, Source.tally_answer _⟩
  | fetch => exact .inr ⟨nofun, Source.tally_answer _⟩
  | _ => exact .inr ⟨nofun, rfl⟩

theorem Steps.next_ne_turn (how : Steps now s stage next s') (job : Job) :
    next ≠ .turn job := by
  cases how <;> nofun

end Stage

namespace Watch

/-- A call of the loop that has not ended: it has asked the source once, unless
it still waits for its turn. -/
def AtWork (w : Watch) (j : Journal) (id : Nat) : Prop :=
  ∃ t ∈ w.tasks, t.id = id ∧ t.job = .update ∧
    (t.stage = .turn .update ∧ j.asks.count id = 0 ∨
      t.stage ≠ .turn .update ∧ j.asks.count id = 1)

/-- All calls of the source are accounted for, over a source that had been
called before. -/
structure Accounted (before : Option Nat) (w : Watch) (j : Journal) : Prop where
  below : (∀ id ∈ j.calls, id < w.begun) ∧ ∀ id ∈ j.called, id < w.begun
  distinct : j.calls.Nodup
  apart : ∀ id ∈ j.calls, id ∉ j.called
  /-- Every call is the one that the loop waits for or somebody else's. -/
  owned : ∀ t ∈ w.tasks, w.cycle = some t.id ∨ t.id ∈ j.called
  asked : ∀ id ∈ j.asks, id ∈ j.calls ∨ id ∈ j.called
  atWork : ∀ id, w.cycle = some id → w.AtWork j id
  ended : ∀ (k id : Nat), j.calls[k]? = some id → k < j.ends.length →
    j.asks.count id = 1
  tally : w.shared.source.tally = before.map (· + j.asks.length)

section

variable {before : Option Nat} {w : Watch} {j : Journal} {t : Task}
  {e : Happening} {es : List Happening} {deadline : Nat}

theorem accounted_opened (order : w.Orderly) (idle : w.cycle = none) :
    Accounted w.shared.source.tally w.enter (.opened w) where
  below := by
    refine ⟨fun id hid => (List.not_mem_nil hid).elim, fun id hid => ?_⟩
    obtain ⟨t, ht, rfl⟩ := List.mem_map.1 hid
    exact order.begun t ht
  distinct := .nil
  apart := fun id hid => (List.not_mem_nil hid).elim
  owned := fun t ht => .inr (List.mem_map_of_mem ht)
  asked := fun id hid => (List.not_mem_nil hid).elim
  atWork := by
    intro id cycle
    rw [show w.enter.cycle = w.cycle from rfl, idle] at cycle
    cases cycle
  ended := by
    intro k id hid
    cases hid
  tally := by
    change w.shared.source.tally = w.shared.source.tally.map (· + 0)
    simp

theorem Accounted.refreshed (h : Accounted before w j) (idle : w.cycle = none)
    (all : j.cycles.length = j.ends.length) :
    Accounted before w.refreshed
      { j with cycles := j.cycles ++ [⟨w.begun, w.now⟩] } := by
  have calls :
      ({ j with cycles := j.cycles ++ [⟨w.begun, w.now⟩] } : Journal).calls =
      j.calls ++ [w.begun] := by simp [Journal.calls]
  have fresh : w.begun ∉ j.asks := by
    intro hid
    rcases h.asked _ hid with own | other
    · exact absurd (h.below.1 _ own) (Nat.lt_irrefl _)
    · exact absurd (h.below.2 _ other) (Nat.lt_irrefl _)
  constructor
  · rw [calls]
    refine ⟨fun id hid => ?_, fun id hid =>
      Nat.lt_succ_of_lt (h.below.2 id hid)⟩
    rcases List.mem_append.1 hid with old | new
    · exact Nat.lt_succ_of_lt (h.below.1 id old)
    · rw [List.mem_singleton.1 new]
      exact Nat.lt_succ_self _
  · rw [calls]
    have new : ∀ id ∈ j.calls, id ≠ w.begun :=
      fun id hid => Nat.ne_of_lt (h.below.1 id hid)
    simpa [List.nodup_append, h.distinct] using new
  · rw [calls]
    intro id hid other
    rcases List.mem_append.1 hid with old | new
    · exact h.apart id old other
    · rw [List.mem_singleton.1 new] at other
      exact absurd (h.below.2 _ other) (Nat.lt_irrefl _)
  · intro u hu
    rcases mem_tasks_enqueue hu with old | rfl
    · rcases h.owned u old with cycle | other
      · rw [idle] at cycle
        cases cycle
      · exact .inr other
    · exact .inl rfl
  · rw [calls]
    intro id hid
    rcases h.asked id hid with own | other
    · exact .inl (List.mem_append_left _ own)
    · exact .inr other
  · intro id cycle
    obtain rfl : w.begun = id := Option.some.inj cycle
    refine ⟨⟨w.begun, .update, .turn .update⟩, ?_, rfl, rfl, .inl ⟨rfl, ?_⟩⟩
    · exact List.mem_append_right _ (List.mem_singleton_self _)
    · exact List.count_eq_zero.2 fresh
  · rw [calls]
    intro k id hid lt
    have length : j.calls.length = j.ends.length := by
      simpa [Journal.calls] using all
    rw [List.getElem?_append_left (by rw [length]; exact lt)] at hid
    exact h.ended k id hid lt
  · exact h.tally

theorem Accounted.look (h : Accounted before w j) (idle : w.cycle = none)
    (all : j.cycles.length = j.ends.length) :
    Accounted before w.wake (j.look w) := by
  have how := looks w j
  generalize w.wake = v, j.look w = k at how
  cases how with
  | stop loop stopped => exact { h with }
  | refresh loop goes due => exact h.refreshed idle all
  | wait loop goes early => exact h
  | rest busy => exact h

/-- A step of a call: one that asks is the first of its call. -/
theorem Accounted.advance (h : Accounted before w j) (phase : Phase w j)
    (order : w.Orderly) (ht : t ∈ w.tasks) :
    Accounted before (w.advance t) (j.note t) := by
  have how := steps_advance w t
  have tasks {u : Task} (hu : u ∈ (w.advance t).tasks) :
      ∃ v ∈ w.tasks, v.id = u.id := by
    rcases order.mem_tasks_advance ht hu with rfl | ⟨old, -⟩
    · exact ⟨t, ht, rfl⟩
    · exact ⟨u, old, rfl⟩
  have owned (u : Task) (hu : u ∈ (w.advance t).tasks) :
      w.cycle = some u.id ∨ u.id ∈ j.called := by
    obtain ⟨v, hv, same⟩ := tasks hu
    rw [← same]
    exact h.owned v hv
  -- The loop's call is this one, which is at a later stage now, or another one,
  -- which stays.
  have atWork {k : Journal} (id : Nat) (cycle : w.cycle = some id)
      (mine : t.id = id → k.asks.count id = 1)
      (others : t.id ≠ id → k.asks.count id = j.asks.count id) :
      (w.advance t).AtWork k id := by
    obtain ⟨u, hu, rfl, job, stage⟩ := h.atWork id cycle
    by_cases same : t.id = u.id
    · obtain rfl := order.eq_of_id_eq hu ht same
      exact ⟨_, mem_advance_self ht, rfl, job,
        .inr ⟨how.next_ne_turn _, mine rfl⟩⟩
    · refine ⟨u, mem_advance_of_ne hu (Ne.symm same), rfl, job, ?_⟩
      rw [others same]
      exact stage
  rcases j.note_cases t with ⟨stage, noted⟩ | ⟨stage, noted⟩
  · have tally := (how.tally_eq.resolve_right fun other => other.1 stage).2
    have count {id : Nat} (ne : t.id ≠ id) :
        (j.asks ++ [t.id]).count id = j.asks.count id := by
      simp [List.count_append, ne]
    rw [noted]
    refine { h with
      owned := owned, asked := ?_, atWork := ?_, ended := ?_, tally := ?_ }
    · intro id hid
      rcases List.mem_append.1 hid with old | new
      · exact h.asked id old
      · rw [List.mem_singleton.1 new]
        rcases h.owned t ht with cycle | other
        · exact .inl (List.mem_of_getElem? (phase.of_cycle cycle).2.1)
        · exact .inr other
    · refine fun id cycle => atWork id cycle (fun same => ?_) count
      obtain ⟨u, hu, rfl, job, ⟨-, none⟩ | ⟨later, -⟩⟩ := h.atWork id cycle
      · change (j.asks ++ [t.id]).count u.id = 1
        rw [same, List.count_append, none, List.count_singleton_self]
      · rw [order.eq_of_id_eq hu ht same] at stage
        exact absurd stage later
    · intro k id hid lt
      change (j.asks ++ [t.id]).count id = 1
      rw [count, h.ended k id hid lt]
      rintro rfl
      rcases h.owned t ht with cycle | other
      · have last := (phase.of_cycle cycle).2.1
        have known := (List.getElem?_eq_some_iff.1 hid).1
        exact Nat.ne_of_lt lt
          ((List.getElem?_inj known h.distinct).1 (hid.trans last.symm))
      · exact h.apart _ (List.mem_of_getElem? hid) other
    · rw [tally, h.tally, Option.map_map]
      simp [Function.comp_def, Nat.add_assoc]
  · have tally := (how.tally_eq.resolve_left fun other => stage other.1).2
    rw [noted]
    refine { h with owned := owned, atWork := ?_, tally := tally.trans h.tally }
    refine fun id cycle => atWork id cycle (fun same => ?_) fun _ => rfl
    obtain ⟨u, hu, rfl, job, ⟨first, -⟩ | ⟨-, one⟩⟩ := h.atWork id cycle
    · rw [← order.eq_of_id_eq hu ht same] at first
      exact absurd first stage
    · exact one

theorem Accounted.call (h : Accounted before w j) (job : Job) :
    Accounted before (w.enqueue job)
      { j with called := j.called ++ [w.begun] } := by
  refine { h with
    below := ?_, apart := ?_, owned := ?_, asked := ?_, atWork := ?_ }
  · refine ⟨fun id hid => Nat.lt_succ_of_lt (h.below.1 id hid),
      fun id hid => ?_⟩
    rcases List.mem_append.1 hid with old | new
    · exact Nat.lt_succ_of_lt (h.below.2 id old)
    · rw [List.mem_singleton.1 new]
      exact Nat.lt_succ_self _
  · intro id hid other
    rcases List.mem_append.1 other with old | new
    · exact h.apart id hid old
    · rw [List.mem_singleton.1 new] at hid
      exact absurd (h.below.1 _ hid) (Nat.lt_irrefl _)
  · intro u hu
    rcases mem_tasks_enqueue hu with old | rfl
    · exact (h.owned u old).imp_right (List.mem_append_left _)
    · exact .inr (List.mem_append_right _ (List.mem_singleton_self _))
  · exact fun id hid => (h.asked id hid).imp_right (List.mem_append_left _)
  · intro id cycle
    obtain ⟨u, hu, rest⟩ := h.atWork id cycle
    exact ⟨u, List.mem_append_left _ hu, rest⟩

theorem Accounted.taken (h : Accounted before w j) (phase : Phase w j)
    (order : w.Orderly) {since id : Nat} {o : Outcome}
    (cycle : w.cycle = some id) (ended : w.outcome? id = some o) :
    Accounted before (w.taken since id o)
      { j with ends := j.ends ++ [w.clock] } := by
  obtain ⟨-, last, one⟩ := phase.of_cycle cycle
  refine { h with owned := ?_, atWork := ?_, ended := ?_ }
  · intro u hu
    obtain ⟨hu, ne⟩ := mem_forget.1 hu
    rcases h.owned u hu with own | other
    · exact absurd (Option.some.inj (own.symm.trans cycle)) ne
    · exact .inr other
  · intro id cycle
    cases cycle
  · intro k id' hid lt
    rw [List.length_append, List.length_singleton] at lt
    rcases Nat.lt_or_eq_of_le (Nat.le_of_lt_succ lt) with lt | rfl
    · exact h.ended k id' hid lt
    · obtain rfl := Option.some.inj (last.symm.trans hid)
      obtain ⟨t, ht, rfl, stage⟩ := task_of_outcome? ended
      obtain ⟨u, hu, same, -, ⟨first, -⟩ | ⟨-, one⟩⟩ := h.atWork _ cycle
      · rw [order.eq_of_id_eq ht hu same, stage] at first
        cases first
      · exact one

theorem Accounted.happen (h : Accounted before w j) (phase : Phase w j)
    (order : w.Orderly) (can : w.CanHappen e) :
    Accounted before (w.happen e) (j.after w e) := by
  cases e with
  | act a =>
      cases a with
      | call job => exact h.call job
      | grant t => exact { h with }
      | advance t => exact h.advance phase order can.1
      | outside source x wall => exact { h with tally := can.1.trans h.tally }
  | tick clock wall stops =>
      have same : Accounted before (w.arrive clock wall stops)
          { j with instants := j.instants ++ [⟨clock, wall⟩] } := { h with }
      cases phase with
      | waiting loop cycle goes all => exact same.look cycle all
      | refreshing loop cycle last one =>
          obtain ⟨rests, noted⟩ :=
            tick_of_busy j (busy_of_refreshing loop) clock wall stops
          rw [rests, noted]
          exact same
      | ended loop cycle stopped all => exact same.look cycle all
  | finish =>
      obtain ⟨since, id, o, loop, cycle, ended⟩ := can
      obtain ⟨-, -, one⟩ := phase.of_cycle cycle
      rw [Watch.happen, Journal.after, finish_eq_taken loop cycle ended]
      exact (h.taken phase order cycle ended).look rfl (by simp [one])

theorem Accounted.elapse (h : Accounted before w j) (phase : Phase w j)
    (order : w.Orderly) (elapses : w.Elapses es) :
    Accounted before (w.elapse es) (j.along w es) := by
  -- The accounts rest on the phase of the loop and on the order among the
  -- calls.
  let P (w : Watch) (j : Journal) : Prop :=
    Accounted before w j ∧ Phase w j ∧ w.Orderly
  have all : P (w.elapse es) (j.along w es) :=
    elapse_induction (fun _ ⟨h, phase, order⟩ can =>
      ⟨h.happen phase order can, phase.happen can, order.happen can⟩)
      ⟨h, phase, order⟩ elapses
  exact all.1

theorem accounted_journal {updated : Instant}
    (told : w.shared.store.lastUpdated = .ok updated) (order : w.Orderly)
    (idle : w.cycle = none) (elapses : w.entered.Elapses es) :
    Accounted w.shared.source.tally (w.entered.elapse es) (w.journal es) :=
  ((accounted_opened order idle).look idle rfl).elapse (phase_entered told idle)
    order.entered elapses

/-- A refresh of the loop asks the source at most once by any time, and exactly
once by its end. -/
theorem Accounted.count_asks (h : Accounted before w j) (phase : Phase w j)
    {k id : Nat} (made : j.calls[k]? = some id) :
    j.asks.count id ≤ 1 ∧ (k < j.ends.length → j.asks.count id = 1) := by
  refine ⟨?_, h.ended k id made⟩
  by_cases lt : k < j.ends.length
  · exact Nat.le_of_eq (h.ended k id made lt)
  · -- A refresh that has not ended is the one that the loop waits for.
    have known := (List.getElem?_eq_some_iff.1 made).1
    rw [Journal.calls, List.length_map] at known
    cases phase with
    | refreshing loop cycle last one =>
        obtain rfl : k = j.ends.length := by omega
        obtain rfl := Option.some.inj (last.symm.trans made)
        obtain ⟨t, -, -, -, ⟨-, none⟩ | ⟨-, one⟩⟩ := h.atWork _ cycle <;> omega
    | waiting loop cycle goes all => omega
    | ended loop cycle stopped all => omega

end

end Watch

end RuleWatch
