import Mathlib.Data.List.Nodup
import RuleWatch.Proofs.StoredContent
import RuleWatch.Watch.Basic

/-!
Calls at work side by side. A waiting call may be given its turn before others
that came earlier, as long as a writer has its turn alone, and between any two
steps the source, the switches of the store and the time may change. What a
watch does with its lock, first come first served, is one such run.
-/

namespace RuleWatch

namespace Lock

variable {κ : Type}

/-- A client's turn is over, and nobody has had another one for it. -/
def release [DecidableEq κ] (l : Lock κ) (client : κ) : Lock κ :=
  ⟨l.holders.filter (·.client ≠ client), l.waiting.filter (·.client ≠ client)⟩

/-- Whoever gets a turn finds readers only. -/
theorem read_of_admits {holders : List (Turn κ)} {t u : Turn κ}
    (h : admits holders t = true) (hu : u ∈ holders) : u.access = .read := by
  unfold admits at h
  split at h
  · exact of_decide_eq_true (List.all_eq_true.1 h u hu)
  · rw [List.isEmpty_iff.1 h] at hu
    cases hu

theorem leave_eq_settle [DecidableEq κ] (l : Lock κ) (client : κ) :
    l.leave client =
      settle (l.release client).holders (l.release client).waiting := rfl

theorem holds_eq_true_iff [DecidableEq κ] {l : Lock κ} {client : κ} :
    l.holds client = true ↔ ∃ turn ∈ l.holders, turn.client = client := by
  simp [holds]

theorem holds_release [DecidableEq κ] {l : Lock κ} {client other : κ} :
    (l.release client).holds other = true ↔
      l.holds other = true ∧ other ≠ client := by
  simp only [holds_eq_true_iff, release, List.mem_filter, decide_eq_true_eq]
  constructor
  · rintro ⟨turn, ⟨held, ne⟩, rfl⟩
    exact ⟨⟨turn, held, rfl⟩, ne⟩
  · rintro ⟨⟨turn, held, rfl⟩, ne⟩
    exact ⟨turn, ⟨held, ne⟩, rfl⟩

end Lock

namespace Stage

/-- All that a step of a call can do, with what it finds. -/
inductive Steps (now : Instant) (s : Shared) : Stage → Stage → Shared → Prop
  | ask : Steps now s (turn .update) asked { s with source := s.source.ask }
  | unread {e} (read : s.store.get = .error e) :
      Steps now s (turn .restore) (done (.failed (.storeRead e))) s
  | empty (read : s.store.get = .ok none) :
      Steps now s (turn .restore) (done .nothing) s
  | load {raw : String} (read : s.store.get = .ok (some raw)) :
      Steps now s (turn .restore) (loaded raw) s
  | see : Steps now s (turn .read) (done (.seen s.snapshot)) s
  | unfetched {e} (answer : s.source.answer.1 = .error e) :
      Steps now s asked (done (.failed (.fetch e)))
        { s with source := s.source.answer.2.1 }
  | fetch {rules} (answer : s.source.answer.1 = .ok rules) :
      Steps now s asked (fetched rules) { s with source := s.source.answer.2.1 }
  | refuse {rules : RuleSet} {e} (compile : rules.compile = .error e) :
      Steps now s (fetched rules) (done (.failed (.compile e))) s
  | compile {rules : RuleSet} {detectors}
      (compile : rules.compile = .ok detectors) :
      Steps now s (fetched rules) (compiled rules detectors) s
  | unwritten {rules : RuleSet} {detectors e}
      (write : s.store.set (RuleSet.encode rules) now = .error e) :
      Steps now s (compiled rules detectors) (done (.failed (.storeWrite e))) s
  | write {rules : RuleSet} {detectors store}
      (write : s.store.set (RuleSet.encode rules) now = .ok store) :
      Steps now s (compiled rules detectors) (ready detectors) { s with store }
  | undecoded {raw : String} {cause}
      (decode : RuleSet.decode (Text.encode raw) = .error cause) :
      Steps now s (loaded raw) (done (.failed (.decode cause))) s
  | decode {raw : String} {rules}
      (decode : RuleSet.decode (Text.encode raw) = .ok rules) :
      Steps now s (loaded raw) (decoded rules) s
  | reject {rules : RuleSet} {e} (compile : rules.compile = .error e) :
      Steps now s (decoded rules) (done (.failed (.compile e))) s
  | accept {rules : RuleSet} {detectors}
      (compile : rules.compile = .ok detectors) :
      Steps now s (decoded rules) (ready detectors) s
  | install {detectors} :
      Steps now s (ready detectors) (done (.loaded detectors.length))
        (s.install detectors)
  | stay {o} : Steps now s (done o) (done o) s

theorem steps_step (now : Instant) (s : Shared) (stage : Stage) :
    Steps now s stage (stage.step now s).1 (stage.step now s).2.1 := by
  cases stage with
  | turn job =>
      cases job with
      | update => exact .ask
      | restore =>
          simp only [step]
          split
          · next read => exact .unread read
          · next read => exact .empty read
          · next read => exact .load read
      | read => exact .see
  | asked =>
      simp only [step, Shared.answer]
      split
      · next answer => exact .unfetched answer
      · next answer => exact .fetch answer
  | fetched rules =>
      simp only [step]
      split
      · next compile => exact .refuse compile
      · next compile => exact .compile compile
  | compiled rules detectors =>
      simp only [step]
      split
      · next write => exact .unwritten write
      · next write => exact .write write
  | loaded raw =>
      simp only [step, Shared.storedRules]
      cases decode : RuleSet.decode (Text.encode raw) with
      | error cause => exact .undecoded decode
      | ok rules => exact .decode decode
  | decoded rules =>
      simp only [step]
      split
      · next compile => exact .reject compile
      · next compile => exact .accept compile
  | ready detectors => exact .install
  | done o => exact .stay

theorem eq_done_of_outcome? {stage : Stage} {o : Outcome}
    (h : stage.outcome? = some o) :
    stage = done o := by
  cases stage with
  | done o' =>
      cases h
      rfl
  | _ => cases h

def Fits (job : Job) : Stage → Prop
  | turn other => other = job
  | asked | fetched _ | compiled _ _ => job = .update
  | loaded _ | decoded _ => job = .restore
  | ready _ => job.access = .write
  | done _ => True

theorem Fits.of_steps {job : Job} {now : Instant} {s s' : Shared}
    {stage stage' : Stage} (h : stage.Fits job)
    (how : Steps now s stage stage' s') : stage'.Fits job := by
  cases how with
  | ask => exact h.symm
  | load => exact h.symm
  | fetch => exact h
  | compile => exact h
  | write =>
      obtain rfl : job = .update := h
      rfl
  | decode => exact h
  | accept =>
      obtain rfl : job = .restore := h
      rfl
  | _ => trivial

end Stage

theorem Job.eq_read_of_access {job : Job} (h : job.access = .read) :
    job = .read := by
  cases job with
  | read => rfl
  | _ => cases h

theorem Job.access_of_ne {job : Job} (h : job ≠ .read) :
    job.access = .write := by
  cases job with
  | read => exact absurd rfl h
  | _ => rfl

def Task.turn (t : Task) : Turn Nat := ⟨t.id, t.job.access⟩

namespace Watch

/-! ### What can happen -/

inductive Action
  | call (job : Job)
  | grant (t : Task)
  | advance (t : Task)
  /-- What lies outside changes. The text in the store does not: nobody else
  writes it. -/
  | outside (source : Source) (x : Switches) (wall : Instant)

def Action.isOutside : Action → Bool
  | outside _ _ _ => true
  | _ => false

def enqueue (w : Watch) (job : Job) : Watch :=
  { w with
    lock := { w.lock with waiting := w.lock.waiting ++ [⟨w.begun, job.access⟩] }
    tasks := w.tasks ++ [⟨w.begun, job, .turn job⟩]
    begun := w.begun + 1 }

def grant (w : Watch) (t : Task) : Watch :=
  { w with lock := ⟨w.lock.holders ++ [t.turn], w.lock.waiting.erase t.turn⟩ }

def next (w : Watch) (t : Task) : Stage := (t.stage.step w.wall w.shared).1

/-- One step of a call. Its end gives its turn to nobody yet. -/
def advance (w : Watch) (t : Task) : Watch :=
  { w with
    shared := (t.stage.step w.wall w.shared).2.1
    tasks := w.tasks.map fun u =>
      if u.id = t.id then { u with stage := w.next t } else u
    lock := if (w.next t).outcome?.isSome then w.lock.release t.id else w.lock
    log := w.log ++ (t.stage.step w.wall w.shared).2.2 }

theorem steps_advance (w : Watch) (t : Task) :
    t.stage.Steps w.wall w.shared (w.next t) (w.advance t).shared :=
  Stage.steps_step w.wall w.shared t.stage

def change (w : Watch) (source : Source) (x : Switches)
    (wall : Instant) : Watch :=
  { w with
    shared := { w.shared with source, store := w.shared.store.under x }, wall }

def after (w : Watch) : Action → Watch
  | .call job => w.enqueue job
  | .grant t => w.grant t
  | .advance t => w.advance t
  | .outside source x wall => w.change source x wall

/-- A turn is given to a call that waits for it and can have it beside the
others, and a step is made by a call that has its turn. -/
def Allows (w : Watch) : Action → Prop
  | .grant t => t ∈ w.tasks ∧ t.turn ∈ w.lock.waiting ∧
      Lock.admits w.lock.holders t.turn = true
  | .advance t => t ∈ w.tasks ∧ w.lock.holds t.id = true
  | _ => True

def play (w : Watch) : List Action → Watch
  | [] => w
  | a :: as => (w.after a).play as

def Plays (w : Watch) : List Action → Prop
  | [] => True
  | a :: as => w.Allows a ∧ (w.after a).Plays as

theorem play_append (w : Watch) (as bs : List Action) :
    w.play (as ++ bs) = (w.play as).play bs := by
  induction as generalizing w with
  | nil => rfl
  | cons a as ih => exact ih (w.after a)

theorem plays_append {w : Watch} {as bs : List Action} :
    w.Plays (as ++ bs) ↔ w.Plays as ∧ (w.play as).Plays bs := by
  induction as generalizing w with
  | nil => simp [Plays, play]
  | cons a as ih => simp only [List.cons_append, Plays, play, ih, and_assoc]

/-! ### Order among the calls -/

/-- Who has a turn and who waits are calls of their own, each at a stage that
goes with it. -/
structure Orderly (w : Watch) : Prop where
  exclusive : Lock.Exclusive w.lock.holders
  distinct : (w.tasks.map (·.id)).Nodup
  begun : ∀ t ∈ w.tasks, t.id < w.begun
  holder : ∀ turn ∈ w.lock.holders,
    ∃ t ∈ w.tasks, t.turn = turn ∧ t.stage.outcome? = none
  waiter : ∀ turn ∈ w.lock.waiting,
    ∃ t ∈ w.tasks, t.turn = turn ∧ t.stage = .turn t.job
  queue : (w.lock.waiting.map (·.client)).Nodup
  apart : ∀ turn ∈ w.lock.waiting, w.lock.holds turn.client = false
  fits : ∀ t ∈ w.tasks, t.stage.Fits t.job

section

variable {w : Watch} {t u : Task}

theorem Orderly.of_idle (lock : w.lock = {}) (tasks : w.tasks = []) :
    w.Orderly where
  exclusive := .inl (by simp [lock])
  distinct := by simp [tasks]
  begun := by simp [tasks]
  holder := by simp [lock]
  waiter := by simp [lock]
  queue := by simp [lock]
  apart := by simp [lock]
  fits := by simp [tasks]

theorem Orderly.eq_of_id_eq (h : w.Orderly) (ht : t ∈ w.tasks)
    (hu : u ∈ w.tasks) (same : u.id = t.id) : u = t :=
  List.inj_on_of_nodup_map h.distinct hu ht same

theorem Orderly.turn_mem_holders (h : w.Orderly) (ht : t ∈ w.tasks)
    (held : w.lock.holds t.id = true) :
    t.turn ∈ w.lock.holders ∧ t.stage.outcome? = none := by
  obtain ⟨turn, hm, hc⟩ := Lock.holds_eq_true_iff.1 held
  obtain ⟨u, hu, rfl, working⟩ := h.holder turn hm
  obtain rfl := h.eq_of_id_eq ht hu hc
  exact ⟨hm, working⟩

/-- A writer that has its turn has it alone. -/
theorem Orderly.alone (h : w.Orderly) (ht : t ∈ w.tasks)
    (held : w.lock.holds t.id = true) (write : t.job.access = .write)
    (hu : u ∈ w.tasks) (also : w.lock.holds u.id = true) :
    u = t := by
  have mt := (h.turn_mem_holders ht held).1
  have mu := (h.turn_mem_holders hu also).1
  rcases h.exclusive with readers | single
  · have := readers _ mt
    rw [show t.turn.access = .write from write] at this
    cases this
  · obtain ⟨x, hx⟩ := List.length_eq_one_iff.1
      (Nat.le_antisymm single (List.length_pos_of_mem mt))
    rw [hx, List.mem_singleton] at mt mu
    exact h.eq_of_id_eq ht hu (congrArg Turn.client (mu.trans mt.symm))

theorem Orderly.write_of_ready (h : w.Orderly) (ht : t ∈ w.tasks)
    {detectors : List Detector} (stage : t.stage = .ready detectors) :
    t.job.access = .write := by
  have fits := h.fits t ht
  rwa [stage] at fits

theorem Orderly.lt_of_holds (h : w.Orderly) {id : Nat}
    (held : w.lock.holds id = true) :
    id < w.begun := by
  obtain ⟨turn, hm, rfl⟩ := Lock.holds_eq_true_iff.1 held
  obtain ⟨u, hu, rfl, -⟩ := h.holder turn hm
  exact h.begun u hu

theorem Orderly.stage_of_waiting (h : w.Orderly) (ht : t ∈ w.tasks)
    (waits : t.turn ∈ w.lock.waiting) : t.stage = .turn t.job := by
  obtain ⟨u, hu, same, stage⟩ := h.waiter _ waits
  obtain rfl := h.eq_of_id_eq ht hu (congrArg Turn.client same)
  exact stage

/-! ### What an action does to the calls -/

theorem mem_tasks_enqueue {job : Job} (hu : u ∈ (w.enqueue job).tasks) :
    u ∈ w.tasks ∨ u = ⟨w.begun, job, .turn job⟩ := by
  simpa [enqueue] using hu

theorem Orderly.mem_tasks_of_holds (h : w.Orderly) {job : Job}
    (hu : u ∈ (w.enqueue job).tasks)
    (held : (w.enqueue job).lock.holds u.id = true) : u ∈ w.tasks := by
  rcases mem_tasks_enqueue hu with old | rfl
  · exact old
  · exact absurd (h.lt_of_holds held) (Nat.lt_irrefl _)

theorem Orderly.mem_tasks_advance (h : w.Orderly) (ht : t ∈ w.tasks)
    (hu : u ∈ (w.advance t).tasks) :
    u = { t with stage := w.next t } ∨ u ∈ w.tasks ∧ u.id ≠ t.id := by
  obtain ⟨v, hv, rfl⟩ := List.mem_map.1 hu
  split
  · rename_i same
    rw [h.eq_of_id_eq ht hv same]
    exact .inl rfl
  · rename_i other
    exact .inr ⟨hv, other⟩

theorem mem_advance_of_ne (hu : u ∈ w.tasks) (ne : u.id ≠ t.id) :
    u ∈ (w.advance t).tasks :=
  List.mem_map.2 ⟨u, hu, if_neg ne⟩

theorem mem_advance_self (ht : t ∈ w.tasks) :
    { t with stage := w.next t } ∈ (w.advance t).tasks :=
  List.mem_map.2 ⟨t, ht, if_pos rfl⟩

theorem holds_grant {id : Nat} :
    (w.grant t).lock.holds id = true ↔ w.lock.holds id = true ∨ id = t.id := by
  simp only [Lock.holds_eq_true_iff, grant, List.mem_append, List.mem_singleton,
    or_and_right, exists_or, exists_eq_left]
  rw [show t.turn.client = t.id from rfl, eq_comm (a := t.id)]

/-- A step gives no turns, and the last step of a call gives its own back. -/
theorem holds_advance {id : Nat} : (w.advance t).lock.holds id = true ↔
    w.lock.holds id = true ∧ (id = t.id → (w.next t).outcome? = none) := by
  simp only [advance]
  split
  · rename_i ends
    rw [Lock.holds_release]
    constructor
    · rintro ⟨held, ne⟩
      exact ⟨held, fun same => absurd same ne⟩
    · rintro ⟨held, goes⟩
      refine ⟨held, fun same => ?_⟩
      rw [goes same] at ends
      cases ends
  · rename_i goes
    rw [Bool.not_eq_true, Option.isSome_eq_false_iff,
      Option.isNone_iff_eq_none] at goes
    simp [goes]

theorem Orderly.eq_of_mem_advance (order : w.Orderly) (ht : t ∈ w.tasks)
    (held : w.lock.holds t.id = true) (write : t.job.access = .write) {u : Task}
    (hu : u ∈ (w.advance t).tasks)
    (also : (w.advance t).lock.holds u.id = true) :
    u = { t with stage := w.next t } := by
  rcases order.mem_tasks_advance ht hu with same | ⟨old, ne⟩
  · exact same
  · exact absurd
      (congrArg Task.id
        (order.alone ht held write old (holds_advance.1 also).1)) ne

theorem waiting_advance_subset {turn : Turn Nat}
    (hm : turn ∈ (w.advance t).lock.waiting) :
    turn ∈ w.lock.waiting := by
  simp only [advance] at hm
  split at hm
  · exact (List.mem_filter.1 hm).1
  · exact hm

theorem holders_advance_subset {turn : Turn Nat}
    (hm : turn ∈ (w.advance t).lock.holders) :
    turn ∈ w.lock.holders := by
  simp only [advance] at hm
  split at hm
  · exact (List.mem_filter.1 hm).1
  · exact hm

/-! ### Order is kept -/

theorem Orderly.enqueue (h : w.Orderly) (job : Job) :
    (w.enqueue job).Orderly where
  exclusive := h.exclusive
  distinct := by
    have fresh : w.begun ∉ w.tasks.map (·.id) := by
      intro hm
      obtain ⟨t, ht, same⟩ := List.mem_map.1 hm
      exact absurd (h.begun t ht) (by omega)
    simpa [Watch.enqueue, List.nodup_append, h.distinct] using fresh
  begun := by
    intro u hu
    rcases mem_tasks_enqueue hu with old | rfl
    · exact Nat.lt_succ_of_lt (h.begun u old)
    · exact Nat.lt_succ_self _
  holder := by
    intro turn hm
    obtain ⟨u, hu, rest⟩ := h.holder turn hm
    exact ⟨u, List.mem_append_left _ hu, rest⟩
  waiter := by
    intro turn hm
    rcases List.mem_append.1 hm with old | new
    · obtain ⟨u, hu, rest⟩ := h.waiter turn old
      exact ⟨u, List.mem_append_left _ hu, rest⟩
    · obtain rfl := List.mem_singleton.1 new
      exact ⟨_, List.mem_append_right _ (List.mem_singleton_self _), rfl, rfl⟩
  queue := by
    have fresh : w.begun ∉ w.lock.waiting.map (·.client) := by
      intro hm
      obtain ⟨turn, ht, same⟩ := List.mem_map.1 hm
      obtain ⟨u, hu, rfl, -⟩ := h.waiter turn ht
      exact absurd (h.begun u hu) (by simp only [Task.turn] at same; omega)
    simpa [Watch.enqueue, List.nodup_append, h.queue] using fresh
  apart := by
    intro turn hm
    rcases List.mem_append.1 hm with old | new
    · exact h.apart turn old
    · obtain rfl := List.mem_singleton.1 new
      rw [Bool.eq_false_iff]
      exact fun held => absurd (h.lt_of_holds held) (Nat.lt_irrefl _)
  fits := by
    intro u hu
    rcases mem_tasks_enqueue hu with old | rfl
    · exact h.fits u old
    · rfl

theorem Orderly.grant (h : w.Orderly) (ht : t ∈ w.tasks)
    (waits : t.turn ∈ w.lock.waiting)
    (granted : Lock.admits w.lock.holders t.turn = true) :
    (w.grant t).Orderly where
  exclusive := .append granted
  distinct := h.distinct
  begun := h.begun
  holder := by
    intro turn hm
    rcases List.mem_append.1 hm with old | new
    · exact h.holder turn old
    · obtain rfl := List.mem_singleton.1 new
      exact ⟨t, ht, rfl, by rw [h.stage_of_waiting ht waits]; rfl⟩
  waiter := fun turn hm => h.waiter turn (List.mem_of_mem_erase hm)
  queue := h.queue.sublist (List.erase_sublist.map _)
  apart := by
    intro turn hm
    have old := List.mem_of_mem_erase hm
    rw [Bool.eq_false_iff]
    intro held
    rcases holds_grant.1 held with before | now
    · rw [h.apart turn old] at before
      cases before
    · have same : turn = t.turn :=
        List.inj_on_of_nodup_map h.queue old waits now
      exact (List.Nodup.mem_erase_iff (h.queue.of_map _)).1 hm |>.1 same
  fits := h.fits

theorem Orderly.advance (h : w.Orderly) (ht : t ∈ w.tasks)
    (held : w.lock.holds t.id = true) :
    (w.advance t).Orderly where
  exclusive := by
    simp only [Watch.advance]
    split
    · exact h.exclusive.filter _
    · exact h.exclusive
  distinct := by
    have same : (w.advance t).tasks.map (·.id) = w.tasks.map (·.id) := by
      simp only [Watch.advance, List.map_map]
      refine List.map_congr_left fun u _ => ?_
      simp only [Function.comp_apply]
      split <;> rfl
    rw [same]
    exact h.distinct
  begun := by
    intro u hu
    rcases h.mem_tasks_advance ht hu with rfl | ⟨old, -⟩
    · exact h.begun t ht
    · exact h.begun u old
  holder := by
    intro turn hm
    obtain ⟨u, hu, rfl, working⟩ := h.holder turn (holders_advance_subset hm)
    by_cases same : u.id = t.id
    · obtain rfl := h.eq_of_id_eq ht hu same
      exact ⟨_, mem_advance_self ht, rfl,
        (holds_advance.1 (Lock.holds_eq_true_iff.2 ⟨_, hm, rfl⟩)).2 rfl⟩
    · exact ⟨u, mem_advance_of_ne hu same, rfl, working⟩
  waiter := by
    intro turn hm
    -- Who waits has no turn, so it is another call that makes the step.
    have waits := waiting_advance_subset hm
    obtain ⟨u, hu, rfl, stage⟩ := h.waiter turn waits
    refine ⟨u, mem_advance_of_ne hu fun same => ?_, rfl, stage⟩
    have := h.apart _ waits
    rw [show u.turn.client = t.id from same, held] at this
    cases this
  queue := by
    simp only [Watch.advance]
    split
    · exact h.queue.sublist (List.filter_sublist.map _)
    · exact h.queue
  apart := by
    intro turn hm
    rw [Bool.eq_false_iff]
    intro still
    have := h.apart turn (waiting_advance_subset hm)
    rw [(holds_advance.1 still).1] at this
    cases this
  fits := by
    intro u hu
    rcases h.mem_tasks_advance ht hu with rfl | ⟨old, -⟩
    · exact (h.fits t ht).of_steps (steps_advance w t)
    · exact h.fits u old

/-- Order is kept by whatever can happen. -/
theorem Orderly.after (h : w.Orderly) {a : Action} (allowed : w.Allows a) :
    (w.after a).Orderly := by
  cases a with
  | call job => exact h.enqueue job
  | grant t => exact h.grant allowed.1 allowed.2.1 allowed.2.2
  | advance t => exact h.advance allowed.1 allowed.2
  | outside source x wall => exact { h with }

theorem Orderly.play (h : w.Orderly) {as : List Action} (plays : w.Plays as) :
    (w.play as).Orderly := by
  induction as generalizing w with
  | nil => exact h
  | cons a as ih => exact ih (h.after plays.1) plays.2

/-! ### First come, first served -/

/-- Giving turns from the first waiting call on is one way to give them. -/
theorem plays_settle (h : w.Orderly) : ∃ as, w.Plays as ∧
    w.play as = { w with lock := Lock.settle w.lock.holders w.lock.waiting } ∧
    ∀ a ∈ as, a.isOutside = false := by
  -- By induction on those who wait: each turn that is given is an action of its
  -- own.
  generalize hq : w.lock.waiting = queue
  induction queue generalizing w with
  | nil => exact ⟨[], trivial, by simp [play, Lock.settle, ← hq], by simp⟩
  | cons turn queue ih =>
      unfold Lock.settle
      split
      · rename_i granted
        have first : turn ∈ w.lock.waiting := by simp [hq]
        obtain ⟨t, ht, rfl, -⟩ := h.waiter turn first
        have rest : (w.grant t).lock.waiting = queue := by simp [grant, hq]
        obtain ⟨as, plays, same, own⟩ := ih (h.grant ht first granted) rest
        exact ⟨.grant t :: as, ⟨⟨ht, first, granted⟩, plays⟩, same,
          List.forall_mem_cons.2 ⟨rfl, own⟩⟩
      · exact ⟨[], trivial, by simp [play, ← hq], by simp⟩

theorem plays_call (h : w.Orderly) (job : Job) :
    ∃ as, w.Plays as ∧ w.play as = (w.call job).2 ∧
      ∀ a ∈ as, a.isOutside = false := by
  obtain ⟨as, plays, same, own⟩ := plays_settle (h.enqueue job)
  exact ⟨.call job :: as, ⟨trivial, plays⟩, same,
    List.forall_mem_cons.2 ⟨rfl, own⟩⟩

theorem plays_move (h : w.Orderly) (ht : t ∈ w.tasks)
    (can : w.canMove t = true) :
    ∃ as, w.Plays as ∧ w.play as = w.move t ∧
      ∀ a ∈ as, a.isOutside = false := by
  have held : w.lock.holds t.id = true := (Bool.and_eq_true _ _ ▸ can).1
  by_cases ends : (w.next t).outcome?.isSome = true
  -- The turn that is given back goes on to the first who wait.
  · obtain ⟨as, plays, same, own⟩ := plays_settle (h.advance ht held)
    refine ⟨.advance t :: as, ⟨⟨ht, held⟩, plays⟩, same.trans ?_,
      List.forall_mem_cons.2 ⟨rfl, own⟩⟩
    simp only [next] at ends
    simp only [advance, move, next, ends, if_pos, Lock.leave_eq_settle]
  · refine ⟨[.advance t], ⟨⟨ht, held⟩, trivial⟩, ?_,
      List.forall_mem_singleton.2 rfl⟩
    simp only [next] at ends
    simp only [play, after, advance, move, next, ends, if_neg,
      Bool.false_eq_true, not_false_eq_true]

/-- All that the calls of a watch do, until each has ended or is held up, is one
of the runs. -/
theorem plays_runFor (h : w.Orderly) (n : Nat) :
    ∃ as, w.Plays as ∧ w.play as = w.runFor n ∧
      ∀ a ∈ as, a.isOutside = false := by
  induction n generalizing w with
  | zero => exact ⟨[], trivial, rfl, by simp⟩
  | succ n ih =>
      unfold runFor
      split
      · rename_i t found
        obtain ⟨as, plays, same, own⟩ :=
          plays_move h (List.mem_of_find?_eq_some found) (List.find?_some found)
        obtain ⟨bs, more, rest, own'⟩ := ih (same ▸ h.play plays)
        refine ⟨as ++ bs, plays_append.2 ⟨plays, same ▸ more⟩, ?_,
          List.forall_mem_append.2 ⟨own, own'⟩⟩
        rw [play_append, same, rest]
      · exact ⟨[], trivial, rfl, by simp⟩

end

/-! ### A run -/

def sampleRules : RuleSet := [⟨"a", "contains", "x"⟩]

def sample : Watch :=
  start ⟨.memory {}, .script { queue := [.ok sampleRules] },
    .initial⟩ true 0 .epoch

/-- An update, a restore and a reader side by side. The reader passes the
restore, which finds that reading has stopped working by then. -/
def sampleRun : List Action :=
  let detectors := [.contains [120]]
  [.call .update, .call .restore, .call .read,
    .grant ⟨0, .update, .turn .update⟩,
    .advance ⟨0, .update, .turn .update⟩,
    .advance ⟨0, .update, .asked⟩,
    .outside (.script {}) { failsReads := true } .epoch,
    .advance ⟨0, .update, .fetched sampleRules⟩,
    .advance ⟨0, .update, .compiled sampleRules detectors⟩,
    .advance ⟨0, .update, .ready detectors⟩,
    .grant ⟨2, .read, .turn .read⟩,
    .advance ⟨2, .read, .turn .read⟩,
    .grant ⟨1, .restore, .turn .restore⟩,
    .advance ⟨1, .restore, .turn .restore⟩,
    .outside (.script {}) {} .epoch]

theorem plays_sampleRun : sample.Plays sampleRun := by
  refine ⟨trivial, trivial, trivial, ⟨.head _, .head _, rfl⟩, ⟨.head _, rfl⟩,
    ⟨.head _, rfl⟩, trivial, ⟨.head _, rfl⟩, ⟨.head _, rfl⟩, ⟨.head _, rfl⟩,
    ⟨?_, .tail _ (.head _), rfl⟩, ⟨?_, rfl⟩, ⟨.tail _ (.head _), .head _, rfl⟩,
    ⟨.tail _ (.head _), rfl⟩, trivial, trivial⟩
  · exact .tail _ (.tail _ (.head _))
  · exact .tail _ (.tail _ (.head _))

end Watch

end RuleWatch
