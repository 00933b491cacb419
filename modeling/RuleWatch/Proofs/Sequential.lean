import RuleWatch.Proofs.Labels

/-!
Calls side by side and one after another. The calls are put into the order of
their turns, and each is carried out at once, under the conditions that it has
met at work. Main statement: the calls end with the same outcomes either way,
and leave the same snapshot and the same stored content.
-/

namespace RuleWatch

/-- What decides how a call goes, apart from what the calls before it have
left. -/
structure Conditions where
  source : Source := .script {}
  switches : Switches := {}
  wall : Instant := .epoch

namespace Conditions

/-- A call meets the source when it takes the answer, and the switches of the
store and the time when it reads or writes. -/
def meet (k : Conditions) (w : Watch) : Stage → Conditions
  | .asked => { k with source := w.shared.source }
  | .turn .restore | .compiled _ _ =>
      { k with switches := w.shared.store.switches, wall := w.wall }
  | _ => k

def acts (met : Nat → Conditions) : List (Nat × Job) → List Shared.Act
  | [] => []
  | (id, job) :: rest =>
      .change (met id).source (met id).switches ::
        .call job (met id).wall :: acts met rest

theorem acts_append (met : Nat → Conditions) (past rest : List (Nat × Job)) :
    acts met (past ++ rest) = acts met past ++ acts met rest := by
  induction past with
  | nil => rfl
  | cons v past ih => simp [acts, ih]

theorem acts_congr {met met' : Nat → Conditions} {past : List (Nat × Job)}
    (same : ∀ v ∈ past, met' v.1 = met v.1) :
    acts met' past = acts met past := by
  induction past with
  | nil => rfl
  | cons v past ih =>
      obtain ⟨id, job⟩ := v
      have first : met' id = met id := same (id, job) List.mem_cons_self
      simp only [acts, first, ih fun v hv => same v (List.mem_cons_of_mem _ hv)]

end Conditions

namespace Shared

def amid (s : Shared) (k : Conditions) : Shared :=
  { s with source := k.source, store := s.store.under k.switches }

structure Alike (s t : Shared) : Prop where
  snapshot : s.snapshot = t.snapshot
  content : s.store.content = t.store.content

theorem Alike.amid {s t : Shared} (h : s.Alike t) (k : Conditions) :
    (s.amid k).Alike t :=
  ⟨h.snapshot, (Store.content_under _ _).trans h.content⟩

theorem run_append (s : Shared) (as bs : List Act) :
    s.run (as ++ bs) = ((s.run as).1 ++ ((s.run as).2.run bs).1,
      ((s.run as).2.run bs).2) := by
  induction as generalizing s with
  | nil => rfl
  | cons a as ih =>
      cases a with
      | call job now => simp [run, ih]
      | change source x => exact ih _

theorem length_run_acts (s : Shared) (met : Nat → Conditions)
    (past : List (Nat × Job)) :
    (s.run (Conditions.acts met past)).1.length = past.length := by
  induction past generalizing s with
  | nil => rfl
  | cons v past ih => simp [Conditions.acts, run, ih]

/-- What the calls have ended with, carried out one after another, and what they
leave. -/
def replay (s : Shared) (met : Nat → Conditions) (past : List (Nat × Job)) :
    List ((Nat × Job) × Outcome) × Shared :=
  let (outcomes, s) := s.run (Conditions.acts met past)
  (past.zip outcomes, s)

theorem replay_append {s s' : Shared} {met : Nat → Conditions}
    {past : List (Nat × Job)} {id : Nat} {job : Job} {o : Outcome}
    (h : ((s.replay met past).2.amid (met id)).perform (met id).wall job =
      (o, s')) :
    s.replay met (past ++ [(id, job)]) =
      ((s.replay met past).1 ++ [((id, job), o)], s') := by
  simp only [replay, amid] at h
  simp only [replay, Conditions.acts_append, run_append, Conditions.acts, run,
    h, List.zip_append (length_run_acts s met past).symm, List.zip_cons_cons,
    List.zip_nil_left]

theorem replay_congr (s : Shared) {met met' : Nat → Conditions}
    {past : List (Nat × Job)} (same : ∀ v ∈ past, met' v.1 = met v.1) :
    s.replay met' past = s.replay met past := by
  simp only [replay, Conditions.acts_congr same]

end Shared

/-- The calls in the order of their turns, and what each has met. -/
structure Schedule where
  order : List (Nat × Job) := []
  met : Nat → Conditions := fun _ => {}

namespace Schedule

def after (c : Schedule) (w : Watch) : Watch.Action → Schedule
  | .grant t => { c with order := c.order ++ [(t.id, t.job)] }
  | .advance t =>
      { c with met := Function.update c.met t.id ((c.met t.id).meet w t.stage) }
  | _ => c

def along (c : Schedule) (w : Watch) : List Watch.Action → Schedule
  | [] => c
  | a :: as => (c.after w a).along (w.after a) as

end Schedule

/-! ### A call at work -/

/-- How far a call has come that would have begun at `base`, if it is carried
out at once. -/
def Midway (job : Job) (base s : Shared) (k : Conditions) : Stage → Prop
  | .turn _ | .asked => base.Alike s
  | .fetched rules => base.Alike s ∧ k.source.answer.1 = .ok rules
  | .compiled rules detectors =>
      base.Alike s ∧ k.source.answer.1 = .ok rules ∧
        rules.compile = .ok detectors
  | .loaded raw => base.Alike s ∧ (base.amid k).store.get = .ok (some raw)
  | .decoded rules => base.Alike s ∧
      ∃ raw, (base.amid k).store.get = .ok (some raw) ∧
      RuleSet.decode (Text.encode raw) = .ok rules
  | .ready detectors => ∃ s', (base.amid k).perform k.wall job =
      (.loaded detectors.length, s') ∧
      s'.Alike (s.install detectors)
  | .done o => ∃ s', (base.amid k).perform k.wall job = (o, s') ∧ s'.Alike s

section

variable {job : Job} {base s s' : Shared} {k : Conditions}
  {stage stage' : Stage} {w : Watch}

theorem Shared.Alike.store_amid (h : base.Alike w.shared)
    (switches : k.switches = w.shared.store.switches) :
    (base.amid k).store = w.shared.store := by
  rw [Shared.amid, switches, Store.under_eq_of_content_eq h.content,
    Store.under_switches]

theorem Midway.congr (h : Midway job base s k stage) (same : s.Alike s') :
    Midway job base s' k stage := by
  have trans {t : Shared} (h : t.Alike s) : t.Alike s' :=
    ⟨h.snapshot.trans same.snapshot, h.content.trans same.content⟩
  cases stage with
  | turn other => exact trans h
  | asked => exact trans h
  | fetched rules => exact ⟨trans h.1, h.2⟩
  | compiled rules detectors => exact ⟨trans h.1, h.2⟩
  | loaded raw => exact ⟨trans h.1, h.2⟩
  | decoded rules => exact ⟨trans h.1, h.2⟩
  | ready detectors =>
      obtain ⟨t, done, alike⟩ := h
      refine ⟨t, done, alike.snapshot.trans ?_,
        alike.content.trans same.content⟩
      rw [Shared.install, Shared.install, same.snapshot]
  | done o =>
      obtain ⟨t, done, alike⟩ := h
      exact ⟨t, done, trans alike⟩

/-- A step brings a call on its way, or to the end that it comes to at once. -/
theorem Midway.step (h : Midway job base w.shared k stage)
    (fits : stage.Fits job) (how : stage.Steps w.wall w.shared stage' s') :
    Midway job base s' (k.meet w stage) stage' := by
  have placed {ds : List Detector} (alike : base.Alike w.shared) :
      (base.install ds).snapshot = (w.shared.install ds).snapshot := by
    simp only [Shared.install, alike.snapshot]
  cases how with
  | ask => exact ⟨h.snapshot, h.content⟩
  | unread read =>
      obtain rfl : Job.restore = job := fits
      rw [← Shared.Alike.store_amid
        (k := k.meet w (.turn .restore)) h rfl] at read
      exact ⟨_, Shared.perform_restore (Shared.restore_unread read) _, h.amid _⟩
  | empty read =>
      obtain rfl : Job.restore = job := fits
      rw [← Shared.Alike.store_amid
        (k := k.meet w (.turn .restore)) h rfl] at read
      exact ⟨_, Shared.perform_restore (Shared.restore_empty read) _, h.amid _⟩
  | load read =>
      rw [← Shared.Alike.store_amid
        (k := k.meet w (.turn .restore)) h rfl] at read
      exact ⟨h, read⟩
  | see =>
      obtain rfl : Job.read = job := fits
      exact ⟨_, by rw [Shared.perform, ← h.snapshot]; rfl, h.amid _⟩
  | @unfetched e answer =>
      obtain rfl : job = .update := fits
      have ha : (base.amid (k.meet w .asked)).source.answer.1 =
          .error e := answer
      exact ⟨_, Shared.perform_update (Shared.update_unfetched ha), h.snapshot,
        (h.amid (k.meet w .asked)).content⟩
  | fetch answer => exact ⟨⟨h.snapshot, h.content⟩, answer⟩
  | refuse compile =>
      obtain rfl : job = .update := fits
      exact ⟨_, Shared.perform_update (Shared.update_refused _ h.2 compile),
        h.1.snapshot, (h.1.amid k).content⟩
  | compile compile => exact ⟨h.1, h.2, compile⟩
  | @unwritten rules detectors e write =>
      obtain rfl : job = .update := fits
      obtain ⟨alike, answer, compiled⟩ := h
      obtain ⟨good, rfl⟩ := RuleSet.wellFormed_of_compile compiled
      rw [← alike.store_amid (k := k.meet w (.compiled rules rules.detectors))
        rfl] at write
      exact ⟨_,
        Shared.perform_update (Shared.update_unwritten answer good write),
        alike.snapshot, (alike.amid _).content⟩
  | @write rules detectors store write =>
      obtain rfl : job = .update := fits
      obtain ⟨alike, answer, compiled⟩ := h
      obtain ⟨good, rfl⟩ := RuleSet.wellFormed_of_compile compiled
      rw [← alike.store_amid (k := k.meet w (.compiled rules rules.detectors))
        rfl] at write
      exact ⟨_,
        Shared.perform_update (Shared.update_installed answer good write),
        placed alike, rfl⟩
  | undecoded decode =>
      obtain rfl : job = .restore := fits
      exact ⟨_, Shared.perform_restore (Shared.restore_undecoded h.2 decode) _,
        h.1.amid k⟩
  | decode decode => exact ⟨h.1, _, h.2, decode⟩
  | reject compile =>
      obtain rfl : job = .restore := fits
      obtain ⟨alike, raw, read, decode⟩ := h
      exact ⟨_,
        Shared.perform_restore (Shared.restore_refused read decode compile) _,
        alike.amid k⟩
  | accept compile =>
      obtain rfl : job = .restore := fits
      obtain ⟨alike, raw, read, decode⟩ := h
      obtain ⟨good, rfl⟩ := RuleSet.wellFormed_of_compile compile
      exact ⟨_,
        Shared.perform_restore (Shared.restore_installed read decode good) _,
        placed alike, (alike.amid k).content⟩
  | install => exact h
  | stay => exact h

end

/-! ### The order of the turns -/

namespace Watch

/-- The order names each call once, from its turn on. -/
structure Booked (w : Watch) (c : Schedule) : Prop where
  distinct : (c.order.map (·.1)).Nodup
  calls : ∀ v ∈ c.order, ∃ t ∈ w.tasks, (t.id, t.job) = v
  waits : ∀ t ∈ w.tasks, t.turn ∈ w.lock.waiting → t.id ∉ c.order.map (·.1)

section

variable {s : Shared} {w : Watch} {c : Schedule}
  {past : List (Nat × Job)} {t : Task}

theorem Booked.enqueue (h : w.Booked c) (order : w.Orderly) (job : Job) :
    (w.enqueue job).Booked c where
  distinct := h.distinct
  calls := by
    intro v hv
    obtain ⟨t, ht, same⟩ := h.calls v hv
    exact ⟨t, List.mem_append_left _ ht, same⟩
  waits := by
    intro t ht hw
    rcases mem_tasks_enqueue ht with old | rfl
    · refine h.waits t old ?_
      rcases List.mem_append.1 hw with before | now
      · exact before
      · have same : t.id = w.begun :=
          congrArg Turn.client (List.mem_singleton.1 now)
        exact absurd (order.begun t old) (by omega)
    · intro known
      obtain ⟨v, hv, same⟩ := List.mem_map.1 known
      obtain ⟨u, hu, rfl⟩ := h.calls v hv
      exact absurd (order.begun u hu) (Nat.not_lt.2 (Nat.le_of_eq same.symm))

theorem Booked.grant (h : w.Booked c) (order : w.Orderly) (ht : t ∈ w.tasks)
    (waits : t.turn ∈ w.lock.waiting) :
    (w.grant t).Booked (c.after w (.grant t)) where
  distinct := by
    simp only [Schedule.after, List.map_append]
    refine List.nodup_append.2 ⟨h.distinct, List.nodup_singleton _,
      fun id hid other hm same => ?_⟩
    have same : id = t.id := same.trans (List.mem_singleton.1 hm)
    exact h.waits t ht waits (same ▸ hid)
  calls := by
    intro v hv
    rcases List.mem_append.1 hv with old | new
    · exact h.calls v old
    · exact ⟨t, ht, (List.mem_singleton.1 new).symm⟩
  waits := by
    intro u hu hw known
    simp only [Schedule.after, List.map_append, List.mem_append] at known
    rcases known with old | new
    · exact h.waits u hu (List.mem_of_mem_erase hw) old
    · obtain rfl := order.eq_of_id_eq ht hu (List.mem_singleton.1 new)
      exact ((List.Nodup.mem_erase_iff (order.queue.of_map _)).1 hw).1 rfl

theorem Booked.advance (h : w.Booked c) (order : w.Orderly) (ht : t ∈ w.tasks)
    (held : w.lock.holds t.id = true) :
    (w.advance t).Booked (c.after w (.advance t)) where
  distinct := h.distinct
  calls := by
    intro v hv
    obtain ⟨u, hu, rfl⟩ := h.calls v hv
    by_cases same : u.id = t.id
    · obtain rfl := order.eq_of_id_eq ht hu same
      exact ⟨_, mem_advance_self ht, rfl⟩
    · exact ⟨u, mem_advance_of_ne hu same, rfl⟩
  waits := by
    intro u hu hw
    rcases order.mem_tasks_advance ht hu with rfl | ⟨old, -⟩
    · have := order.apart _ (waiting_advance_subset hw)
      rw [show w.lock.holds t.id = false from this] at held
      cases held
    · exact h.waits u old (waiting_advance_subset hw)

theorem Booked.after (h : w.Booked c) (order : w.Orderly) {a : Action}
    (allowed : w.Allows a) :
    (w.after a).Booked (c.after w a) := by
  cases a with
  | call job => exact h.enqueue order job
  | grant t => exact h.grant order allowed.1 allowed.2.1
  | advance t => exact h.advance order allowed.1 allowed.2
  | outside source x wall => exact { h with }

/-! ### All calls -/

/-- The calls of a watch and the same calls one after another, where `past` are
those that are carried out by now: all that have had their turns but for a
writer at work. -/
structure Serial (s : Shared) (w : Watch) (c : Schedule)
    (past : List (Nat × Job)) : Prop where
  ended : ∀ t ∈ w.tasks, ∀ o, t.stage = .done o →
    ((t.id, t.job), o) ∈ (s.replay c.met past).1
  /-- What a reader will see is the snapshot at its place in the order. -/
  readers : ∀ t ∈ w.tasks, w.lock.holds t.id = true → t.job = .read →
    ((t.id, t.job), .seen w.shared.snapshot) ∈ (s.replay c.met past).1
  state : (c.order = past ∧ (s.replay c.met past).2.Alike w.shared ∧
      ∀ t ∈ w.tasks, w.lock.holds t.id = true → t.job = .read) ∨
    ∃ t ∈ w.tasks, w.lock.holds t.id = true ∧ t.job ≠ .read ∧
      c.order = past ++ [(t.id, t.job)] ∧
      Midway t.job (s.replay c.met past).2 w.shared (c.met t.id) t.stage

theorem Serial.of_idle (tasks : w.tasks = []) : Serial w.shared w {} [] where
  ended := by simp [tasks]
  readers := by simp [tasks]
  state := .inl ⟨rfl, ⟨rfl, rfl⟩, by simp [tasks]⟩

theorem Serial.enqueue (h : Serial s w c past) (order : w.Orderly) (job : Job) :
    Serial s (w.enqueue job) c past where
  ended := by
    intro t ht o done
    rcases mem_tasks_enqueue ht with old | rfl
    · exact h.ended t old o done
    · cases done
  readers := by
    intro t ht held read
    exact h.readers t (order.mem_tasks_of_holds ht held) held read
  state := by
    rcases h.state with ⟨all, alike, readers⟩ | ⟨t, ht, rest⟩
    · refine .inl ⟨all, alike, fun t ht held => ?_⟩
      exact readers t (order.mem_tasks_of_holds ht held) held
    · exact .inr ⟨t, List.mem_append_left _ ht, rest⟩

/-- Whoever gets a turn finds no writer at work. -/
theorem Serial.idle_of_admits (h : Serial s w c past) (order : w.Orderly)
    (granted : Lock.admits w.lock.holders t.turn = true) :
    c.order = past ∧ (s.replay c.met past).2.Alike w.shared ∧
      ∀ t ∈ w.tasks, w.lock.holds t.id = true → t.job = .read := by
  rcases h.state with idle | ⟨u, hu, held, write, -⟩
  · exact idle
  · have read := Lock.read_of_admits granted (order.turn_mem_holders hu held).1
    exact absurd (Job.eq_read_of_access read) write

/-- A reader is carried out at once: nobody writes before it has seen its
snapshot. -/
theorem Serial.grant_reader (h : Serial s w c past) (order : w.Orderly)
    (ht : t ∈ w.tasks) (granted : Lock.admits w.lock.holders t.turn = true)
    (read : t.job = .read) :
    Serial s (w.grant t) (c.after w (.grant t)) (past ++ [(t.id, t.job)]) := by
  obtain ⟨rfl, alike, readers⟩ := h.idle_of_admits order granted
  have now : ((s.replay c.met c.order).2.amid (c.met t.id)).perform
      (c.met t.id).wall t.job =
      (.seen w.shared.snapshot,
        (s.replay c.met c.order).2.amid (c.met t.id)) := by
    rw [read, Shared.perform, ← alike.snapshot]
    rfl
  have more :
      s.replay (c.after w (.grant t)).met (c.order ++ [(t.id, t.job)]) = _ :=
    Shared.replay_append now
  constructor
  · intro u hu o done
    rw [more]
    exact List.mem_append_left _ (h.ended u hu o done)
  · intro u hu held read
    rw [more]
    rcases holds_grant.1 held with before | same
    · exact List.mem_append_left _ (h.readers u hu before read)
    · obtain rfl := order.eq_of_id_eq ht hu same
      exact List.mem_append_right _ (List.mem_singleton_self _)
  · rw [more]
    refine .inl ⟨rfl, alike.amid _, fun u hu held => ?_⟩
    rcases holds_grant.1 held with before | same
    · exact readers u hu before
    · rw [order.eq_of_id_eq ht hu same]
      exact read

theorem Serial.grant_writer (h : Serial s w c past) (order : w.Orderly)
    (ht : t ∈ w.tasks) (waits : t.turn ∈ w.lock.waiting)
    (granted : Lock.admits w.lock.holders t.turn = true)
    (write : t.job ≠ .read) :
    Serial s (w.grant t) (c.after w (.grant t)) past := by
  obtain ⟨rfl, alike, -⟩ := h.idle_of_admits order granted
  constructor
  · exact h.ended
  · intro u hu held read
    rcases holds_grant.1 held with before | same
    · exact h.readers u hu before read
    · rw [order.eq_of_id_eq ht hu same] at read
      exact absurd read write
  · refine .inr ⟨t, ht, holds_grant.2 (.inr rfl), write, rfl, ?_⟩
    rw [order.stage_of_waiting ht waits]
    exact alike

theorem Serial.advance_reader (h : Serial s w c past) (order : w.Orderly)
    (ht : t ∈ w.tasks) (held : w.lock.holds t.id = true)
    (read : t.job = .read) :
    Serial s (w.advance t) (c.after w (.advance t)) past := by
  have stage : t.stage = .turn .read := by
    have fits := order.fits t ht
    have working := (order.turn_mem_holders ht held).2
    generalize t.stage = stage at fits working
    cases stage with
    | turn job =>
        rw [← read]
        exact congrArg Stage.turn fits
    | ready detectors => cases (read ▸ fits : Job.read.access = .write)
    | done o => cases working
    | _ => cases read.symm.trans fits
  have next : w.next t = .done (.seen w.shared.snapshot) := by
    rw [Watch.next, stage]
    rfl
  have shared : (w.advance t).shared = w.shared := by
    rw [Watch.advance, stage]
    rfl
  have met : (c.after w (.advance t)).met = c.met := by
    rw [Schedule.after, stage]
    exact Function.update_eq_self _ _
  constructor
  · intro u hu o done
    rw [met]
    rcases order.mem_tasks_advance ht hu with rfl | ⟨old, -⟩
    · rw [next] at done
      cases done
      exact h.readers t ht held read
    · exact h.ended u old o done
  · intro u hu also reads
    rw [met, shared]
    obtain ⟨before, goes⟩ := holds_advance.1 also
    rcases order.mem_tasks_advance ht hu with rfl | ⟨old, -⟩
    · rw [next] at goes
      cases goes rfl
    · exact h.readers u old before reads
  · rw [met, shared]
    rcases h.state with ⟨all, alike, readers⟩ | ⟨u, hu, also, write, -⟩
    · refine .inl ⟨all, alike, fun u hu also => ?_⟩
      rcases order.mem_tasks_advance ht hu with rfl | ⟨old, -⟩
      · exact read
      · exact readers u old (holds_advance.1 also).1
    -- A writer would have its turn beside a reader.
    · rw [order.alone hu also (Job.access_of_ne write) ht held] at read
      exact absurd read write

/-- A writer goes on where it is, and is carried out with its last step. -/
theorem Serial.advance_writer (h : Serial s w c past) (booked : w.Booked c)
    (order : w.Orderly) (ht : t ∈ w.tasks) (held : w.lock.holds t.id = true)
    (write : t.job ≠ .read) :
    ∃ past', Serial s (w.advance t) (c.after w (.advance t)) past' := by
  have midway : c.order = past ++ [(t.id, t.job)] ∧
      Midway t.job (s.replay c.met past).2 w.shared (c.met t.id) t.stage := by
    rcases h.state with ⟨-, -, readers⟩ | ⟨u, hu, also, -, rest⟩
    · exact absurd (readers t ht held) write
    · rw [← order.alone ht held (Job.access_of_ne write) hu also]
      exact rest
  obtain ⟨all, midway⟩ := midway
  -- The conditions of this call alone change, and it is none of the past ones.
  let met := (c.after w (.advance t)).met
  have later : s.replay met past = s.replay c.met past := by
    refine Shared.replay_congr s fun v hv =>
      Function.update_of_ne (fun same => ?_) _ _
    have := booked.distinct
    rw [all, List.map_append, List.nodup_append] at this
    exact this.2.2 v.1 (List.mem_map_of_mem hv) t.id
      (List.mem_singleton_self _) same
  have step : Midway t.job (s.replay met past).2 (w.advance t).shared
      (met t.id) (w.next t) := by
    rw [later, show met t.id = _ from Function.update_self _ _ _]
    exact midway.step (order.fits t ht) (steps_advance w t)
  have only {u : Task} (hu : u ∈ (w.advance t).tasks)
      (also : (w.advance t).lock.holds u.id = true) :
      u = { t with stage := w.next t } :=
    order.eq_of_mem_advance ht held (Job.access_of_ne write) hu also
  cases ho : (w.next t).outcome? with
  | none =>
      refine ⟨past, ?_, ?_, .inr ⟨_, mem_advance_self ht, ?_, write, all, step⟩⟩
      · intro u hu o done
        rw [show (c.after w (.advance t)).met = met from rfl, later]
        rcases order.mem_tasks_advance ht hu with rfl | ⟨old, -⟩
        · rw [show w.next t = _ from done] at ho
          cases ho
        · exact h.ended u old o done
      · intro u hu also read
        rw [only hu also] at read
        exact absurd read write
      · exact holds_advance.2 ⟨held, fun _ => ho⟩
  | some o =>
      -- The call has come to the end that it comes to at once, so it is a past
      -- one from here on.
      rw [Stage.eq_done_of_outcome? ho] at step
      obtain ⟨s', done, alike⟩ := step
      have more := Shared.replay_append done
      rw [later] at more
      have free {u : Task} (hu : u ∈ (w.advance t).tasks)
          (also : (w.advance t).lock.holds u.id = true) : False := by
        have := (holds_advance.1 also).2 (by rw [only hu also])
        rw [ho] at this
        cases this
      refine ⟨past ++ [(t.id, t.job)], ?_,
        fun u hu also => (free hu also).elim, .inl ⟨all, ?_,
        fun u hu also => (free hu also).elim⟩⟩
      · intro u hu o' ends
        rw [show (c.after w (.advance t)).met = met from rfl, more]
        rcases order.mem_tasks_advance ht hu with rfl | ⟨old, -⟩
        · rw [Stage.eq_done_of_outcome? ho] at ends
          cases ends
          exact List.mem_append_right _ (List.mem_singleton_self _)
        · exact List.mem_append_left _ (h.ended u old o' ends)
      · rw [show (c.after w (.advance t)).met = met from rfl, more]
        exact alike

theorem Serial.change (h : Serial s w c past) (source : Source) (x : Switches)
    (wall : Instant) :
    Serial s (w.change source x wall) c past := by
  have alike : w.shared.Alike (w.change source x wall).shared :=
    ⟨rfl, (Store.content_under _ x).symm⟩
  refine ⟨h.ended, h.readers, ?_⟩
  rcases h.state with ⟨all, before, readers⟩ | ⟨t, ht, held, write, all, midway⟩
  · exact .inl ⟨all,
      ⟨before.snapshot, before.content.trans alike.content⟩, readers⟩
  · exact .inr ⟨t, ht, held, write, all, midway.congr alike⟩

theorem Serial.after (h : Serial s w c past) (booked : w.Booked c)
    (order : w.Orderly) {a : Action} (allowed : w.Allows a) :
    ∃ past', Serial s (w.after a) (c.after w a) past' := by
  cases a with
  | call job => exact ⟨past, h.enqueue order job⟩
  | grant t =>
      obtain ⟨ht, waits, granted⟩ := allowed
      by_cases read : t.job = .read
      · exact ⟨_, h.grant_reader order ht granted read⟩
      · exact ⟨past, h.grant_writer order ht waits granted read⟩
  | advance t =>
      by_cases read : t.job = .read
      · exact ⟨past, h.advance_reader order allowed.1 allowed.2 read⟩
      · exact h.advance_writer booked order allowed.1 allowed.2 read
  | outside source x wall => exact ⟨past, h.change source x wall⟩

theorem Serial.play (h : Serial s w c past) (booked : w.Booked c)
    (order : w.Orderly) {as : List Action} (plays : w.Plays as) :
    (w.play as).Booked (c.along w as) ∧
      ∃ past', Serial s (w.play as) (c.along w as) past' := by
  induction as generalizing w c past with
  | nil => exact ⟨booked, past, h⟩
  | cons a as ih =>
      obtain ⟨past', next⟩ := h.after booked order plays.1
      exact ih next (booked.after order plays.1) (order.after plays.1) plays.2

/-- A writer at work does not change what the calls before it end with. -/
theorem Serial.ended_in_order (h : Serial s w c past) (ht : t ∈ w.tasks)
    {o : Outcome} (done : t.stage = .done o) :
    ((t.id, t.job), o) ∈ (s.replay c.met c.order).1 := by
  have mine := h.ended t ht o done
  rcases h.state with ⟨all, -⟩ | ⟨u, -, -, -, all, -⟩
  · rw [all]
    exact mine
  · rw [all, Shared.replay_append rfl]
    exact List.mem_append_left _ mine

/-- When all calls have ended, the order is an order of all calls. -/
theorem Booked.perm (h : w.Booked c) (order : w.Orderly)
    (all : ∀ t ∈ w.tasks, (t.id, t.job) ∈ c.order) :
    c.order.Perm (w.tasks.map fun t => (t.id, t.job)) := by
  have distinct : (w.tasks.map fun t => (t.id, t.job)).Nodup := by
    refine List.Nodup.of_map (·.1) ?_
    rw [List.map_map]
    exact order.distinct
  refine (List.perm_ext_iff_of_nodup (h.distinct.of_map _) distinct).2 fun v =>
    ⟨?_, ?_⟩
  · intro hv
    obtain ⟨t, ht, same⟩ := h.calls v hv
    exact List.mem_map.2 ⟨t, ht, same⟩
  · intro hv
    obtain ⟨t, ht, rfl⟩ := List.mem_map.1 hv
    exact all t ht

/-- Calls side by side are as good as calls one after another in the order of
their turns, with regard to what each ends with and, when all have ended, to
what they leave. A reader that has its turn finds the newest rules in place, and
no snapshot gives way to an older one. -/
theorem concurrent_runs_are_sequential (lock : w.lock = {})
    (tasks : w.tasks = []) {as : List Action} (plays : w.Plays as) :
    let v := w.play as
    let c := Schedule.along {} w as
    let l := Labels.along {} w as
    let sequential := w.shared.run (Conditions.acts c.met c.order)
    (c.order.map (·.1)).Nodup ∧
      (∀ t ∈ v.tasks, ∀ o, t.stage = .done o →
        ((t.id, t.job), o) ∈ c.order.zip sequential.1) ∧
      ((∀ t ∈ v.tasks, t.stage.outcome?.isSome = true) →
        c.order.Perm (v.tasks.map fun t => (t.id, t.job)) ∧
        v.shared.snapshot = sequential.2.snapshot ∧
        v.shared.store.content = sequential.2.store.content) ∧
      (∀ t ∈ v.tasks, v.lock.holds t.id = true → t.job = .read →
        ∀ rules, l.written.getLast? = some rules → v.shared.store.Holds rules ∧
          l.current = some l.last ∧
            rules.compile = .ok v.shared.snapshot.detectors) ∧
      l.installed.Pairwise (· ≤ ·) := by
  intro v c l sequential
  have order : w.Orderly := .of_idle lock tasks
  have blank : w.Booked {} := ⟨.nil, by simp, by simp [tasks]⟩
  obtain ⟨booked, past, serial⟩ := (Serial.of_idle tasks).play blank order plays
  have labelled : Labelled w.shared.store v l :=
    (Labelled.of_idle lock).play order plays
  have order : v.Orderly := order.play plays
  refine ⟨booked.distinct, fun t ht o done => serial.ended_in_order ht done,
    fun ended => ?_, fun t ht held read rules =>
      labelled.newest_of_reader order ht held read, labelled.ascends⟩
  have done (t : Task) (ht : t ∈ v.tasks) : ∃ o, t.stage = .done o := by
    obtain ⟨o, ho⟩ := Option.isSome_iff_exists.1 (ended t ht)
    exact ⟨o, Stage.eq_done_of_outcome? ho⟩
  constructor
  · refine booked.perm order fun t ht => ?_
    obtain ⟨o, ho⟩ := done t ht
    exact (List.of_mem_zip (serial.ended_in_order ht ho)).1
  · rcases serial.state with ⟨all, alike, -⟩ | ⟨t, ht, held, -⟩
    · rw [← all] at alike
      exact ⟨alike.snapshot.symm, alike.content.symm⟩
    · have working := (order.turn_mem_holders ht held).2
      obtain ⟨o, ho⟩ := done t ht
      rw [ho] at working
      cases working

end

theorem sampleRun_is_sequential :
    let c := Schedule.along {} sample sampleRun
    sample.Plays sampleRun ∧
      c.order = [(0, .update), (2, .read), (1, .restore)] ∧
      (sample.play sampleRun).shared.snapshot =
        (sample.shared.run (Conditions.acts c.met c.order)).2.snapshot := by
  have ended :
      (sample.play sampleRun).tasks.all (·.stage.outcome?.isSome) = true := rfl
  have same := concurrent_runs_are_sequential rfl rfl plays_sampleRun
  exact ⟨plays_sampleRun, rfl, (same.2.2.1 (List.all_eq_true.1 ended)).2.1⟩

end Watch

end RuleWatch
