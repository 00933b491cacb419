import RuleWatch.Proofs.Delays
import RuleWatch.Proofs.Lives
import RuleWatch.Proofs.Punctuality

/-!
The first refresh of a loop, over all that a store has been through. A write
leaves its time, and nothing else moves it: a refresh that fails does not, and
neither does a restart or the form in which a database keeps an instant. Main
statement: wherever a loop is entered, its first refresh starts at the first
instant at or behind the last write plus the interval, and not before the entry.
-/

namespace RuleWatch

/-! ### The time in a store -/

namespace Store

def isTelling : Store → Bool
  | memory s => !s.failsUpdated
  | database db => !db.isClosed && db.readFault.isNone

theorem lastUpdated_eq_of_isTelling {s : Store} (h : s.isTelling = true) :
    s.lastUpdated = s.content.lastUpdated := by
  cases s with
  | memory s =>
      simp_all [isTelling, content, under, lastUpdated, MemoryStore.lastUpdated]
  | database db =>
      simp only [isTelling, Bool.and_eq_true, Bool.not_eq_true',
        Option.isNone_iff_eq_none] at h
      simp [content, under, lastUpdated, Database.lastUpdated,
        Database.reach, h.1, h.2]

/-- Whether a store has the time of a write, or of none. -/
def Dates (s : Store) : Option Instant → Prop
  | none => s.content.lastUpdated = .ok .epoch
  | some written => s.content.IsStamped written

example : (memory {}).Dates none ∧ (database {}).Dates none := ⟨rfl, rfl⟩

theorem isStamped_content {s : Store} {now : Instant} :
    s.content.IsStamped now ↔ s.IsStamped now := by
  cases s <;> rfl

theorem Dates.under {s : Store} {last : Option Instant}
    (h : s.Dates last) (x : Switches) :
    (s.under x).Dates last := by
  cases last with
  | none => exact (congrArg lastUpdated (content_under s x)).trans h
  | some written =>
      change (s.under x).content.IsStamped written
      rw [content_under]
      exact h

theorem Dates.lastUpdated_eq {s : Store} {last : Option Instant}
    (h : s.Dates last) (telling : s.isTelling = true)
    (timely : (last.getD .epoch).IsTimely) :
    s.lastUpdated = .ok (last.getD .epoch) := by
  rw [lastUpdated_eq_of_isTelling telling]
  cases last with
  | none => exact h
  | some written =>
      exact lastUpdated_of_isStamped (isStamped_content.1 h) timely

end Store

namespace Stage

/-- The time that a step of a call leaves in the store. A write that has
succeeded leaves its own. -/
def stamp? (now : Instant) : Stage → Stage → Option Instant
  | compiled _ _, ready _ => some now
  | _, _ => none

theorem Steps.dates {now : Instant} {s s' : Shared} {stage next : Stage}
    {last : Option Instant} (how : Steps now s stage next s')
    (h : s.store.Dates last) :
    s'.store.Dates ((stage.stamp? now next).or last) := by
  cases how with
  | write write => exact Store.isStamped_content.2 (Store.set_eq_ok write).2.1
  | _ => exact h

end Stage

namespace Watch

def stamped (w : Watch) (last : Option Instant) : Happening → Option Instant
  | .act (.advance t) => (t.stage.stamp? w.wall (w.next t)).or last
  | _ => last

def stampedBy (w : Watch) (last : Option Instant) :
    List Happening → Option Instant
  | [] => last
  | e :: es => (w.happen e).stampedBy (w.stamped last e) es

/-- What a store can have been through, with the time of the last write that has
succeeded. Loops are entered on it and have their refreshes, other calls come,
and a watch may be killed at any time and started again at any other one. -/
inductive History (fresh : Shared) : Watch → Option Instant → Prop
  | start (enabled : Bool) (interval : Nat) (wall : Instant) :
      History fresh (Watch.start fresh enabled interval wall) none
  | enter {w : Watch} {last : Option Instant} (before : History fresh w last)
      (idle : w.cycle = none) : History fresh w.entered last
  | happen {w : Watch} {last : Option Instant} {e : Happening}
      (before : History fresh w last) (can : w.CanHappen e) :
      History fresh (w.happen e) (w.stamped last e)
  | restart {w : Watch} {last : Option Instant} (before : History fresh w last)
      (enabled : Bool) (interval clock : Nat) (wall : Instant) :
      History fresh
        { w with isEnabled := enabled, interval, clock, wall }.restart last

def Lockstep (w : Watch) (es : List Happening) : Prop :=
  ∀ (clock : Nat) (wall : Instant) (stops : Bool), .tick clock wall stops ∈ es →
    wall = w.wall.shift (clock - w.clock)

section

variable {fresh : Shared} {w v : Watch} {j : Journal} {last : Option Instant}
  {e : Happening} {es : List Happening}

theorem History.elapse (h : History fresh w last) (elapses : w.Elapses es) :
    History fresh (w.elapse es) (w.stampedBy last es) := by
  induction es generalizing w last with
  | nil => exact h
  | cons e es ih => exact ih (h.happen elapses.1) elapses.2

theorem History.orderly (h : History fresh w last) : w.Orderly := by
  induction h with
  | start enabled interval wall => exact .of_idle rfl rfl
  | enter before idle ih => exact ih.entered
  | happen before can ih => exact ih.happen can
  | restart before enabled interval clock wall ih => exact .of_idle rfl rfl

/-- What has been through all that has the time of the last write. -/
theorem History.dates (h : History fresh w last)
    (unwritten : fresh.store.content.lastUpdated = .ok .epoch) :
    w.shared.store.Dates last := by
  induction h with
  | start enabled interval wall =>
      change (fresh.start enabled).1.store.content.lastUpdated = _
      rw [Shared.start_store]
      exact unwritten
  | @enter w last before idle ih =>
      rw [entered, shared_wake]
      exact ih
  | @happen w last e before can ih =>
      cases e with
      | act a =>
          cases a with
          | advance t => exact (steps_advance w t).dates ih
          | outside source x wall => exact ih.under x
          | _ => exact ih
      | tick clock wall stops =>
          rw [Watch.happen, shared_wake]
          exact ih
      | finish =>
          rw [Watch.happen, shared_wake, (finish_rest w).2.2.2]
          exact ih
  | @restart w last before enabled interval clock wall ih =>
      change (w.shared.start enabled).1.store.Dates last
      rw [Shared.start_store]
      exact ih

/-! ### Clocks in lockstep -/

/-- An instant that both clocks tell, one of them by what the wall has told
first. -/
def Level (first : Moment) (m : Moment) : Prop :=
  m.wall = first.wall.shift (m.clock - first.clock)

/-- All that a journal tells by both clocks. -/
structure Levelled (first : Moment) (w : Watch) (j : Journal) : Prop where
  here : Level first w.now
  instants : ∀ m ∈ j.instants, Level first m
  cycles : ∀ c ∈ j.cycles, Level first c.start

theorem Levelled.look {first : Moment} (h : Levelled first w j) :
    Levelled first w.wake (j.look w) := by
  have here : Level first w.wake.now := by
    rw [now_wake]
    exact h.here
  have how := looks w j
  generalize w.wake = v, j.look w = k at how here
  cases how with
  | refresh loop goes due =>
      refine ⟨here, h.instants, fun c hc => ?_⟩
      rcases List.mem_append.1 hc with old | new
      · exact h.cycles c old
      · rw [List.mem_singleton.1 new]
        exact h.here
  | _ => exact ⟨here, h.instants, h.cycles⟩

theorem Levelled.happen {first : Moment} (h : Levelled first w j)
    (can : w.CanHappen e)
    (level : ∀ clock wall stops, e = .tick clock wall stops →
      Level first ⟨clock, wall⟩) :
    Levelled first (w.happen e) (j.after w e) := by
  cases e with
  | act a =>
      obtain ⟨-, -, -, -, -, instants, cycles, -⟩ := act_loop w j a
      have now : (w.after a).now = w.now := by
        cases a with
        | outside source x wall => exact congrArg (Moment.mk w.clock) can.2
        | _ => rfl
      constructor
      · rw [Watch.happen, now]
        exact h.here
      · rw [instants]
        exact h.instants
      · rw [cycles]
        exact h.cycles
  | tick clock wall stops =>
      have arrived := level clock wall stops rfl
      refine Levelled.look (w := w.arrive clock wall stops)
        ⟨arrived, fun m hm => ?_, h.cycles⟩
      rcases List.mem_append.1 hm with old | new
      · exact h.instants m old
      · rw [List.mem_singleton.1 new]
        exact arrived
  | finish =>
      refine Levelled.look (w := w.finish) ⟨?_, h.instants, h.cycles⟩
      rw [(finish_rest w).2.1]
      exact h.here

theorem Levelled.elapse {first : Moment} (h : Levelled first w j)
    (elapses : w.Elapses es)
    (level : ∀ clock wall stops, .tick clock wall stops ∈ es →
      Level first ⟨clock, wall⟩) :
    Levelled first (w.elapse es) (j.along w es) := by
  refine elapse_induction (fun here h can => h.happen can ?_) h elapses
  rintro clock wall stops rfl
  exact level clock wall stops here

theorem levelled_journal (ordinary : w.wall.isLeap = false)
    (elapses : w.entered.Elapses es) (together : w.Lockstep es) :
    Levelled w.now (w.entered.elapse es) (w.journal es) := by
  have here : Level w.now w.now := by
    change w.wall = w.wall.shift (w.clock - w.clock)
    rw [Int.sub_self, Instant.shift_zero ordinary]
  have opened : Levelled w.now w.enter (.opened w) :=
    ⟨here, fun m hm => by rw [List.mem_singleton.1 hm]; exact here,
      fun c hc => by cases hc⟩
  exact opened.look.elapse elapses together

/-- What a levelled journal tells on the wall is what it tells by the clock. -/
theorem Levelled.walls {first : Moment} (h : Levelled first w j) :
    j.instants.map (·.wall) =
      j.clocks.map (fun c : Nat => first.wall.shift (c - first.clock)) ∧
      j.cycles.map (·.start.wall) =
        j.starts.map (fun c : Nat => first.wall.shift (c - first.clock)) := by
  rw [Journal.clocks, Journal.starts, List.map_map, List.map_map]
  exact ⟨List.map_congr_left h.instants, List.map_congr_left h.cycles⟩

/-! ### The deadline -/

/-- A restart neither puts off the next refresh nor brings it forward. Whatever
a store has been through since it was fresh, a loop that is entered on it tells
the time of the last write, the start of 1970 if there was none, and its first
refresh starts at the first instant at or behind that time plus the interval
that comes at the entry or later. -/
theorem deadline_survives_restarts
    (unwritten : fresh.store.content.lastUpdated = .ok .epoch)
      (history : History fresh w last)
    (idle : w.cycle = none) (telling : w.shared.store.isTelling = true)
    (goes : w.isStopped = false) (timely : (last.getD .epoch).IsTimely)
    (ordinary : (last.getD .epoch).isLeap = false ∧ w.wall.isLeap = false)
    (step : w.interval ≤ longestStep)
    (range : (last.getD .epoch).count + w.interval <
      (Instant.lastSecond + 1) * 1000000000)
    (elapses : w.entered.Elapses es) (unstopped : ∀ e ∈ es, e.stops = false)
    (together : w.Lockstep es) :
    let j := w.journal es
    let updated := last.getD .epoch
    w.shared.store.lastUpdated = .ok updated ∧
      (j.cycles.map (·.start.wall)).head? =
        (j.instants.map (·.wall)).find? fun t =>
          max w.wall.count (updated.count + w.interval) ≤ t.count := by
  intro j updated
  have told := (history.dates unwritten).lastUpdated_eq telling timely
  have run : w.Undisturbed updated es :=
    ⟨history.orderly, idle, told, goes, elapses, unstopped⟩
  obtain ⟨instants, cycles⟩ :=
    (levelled_journal ordinary.2 elapses together).walls
  refine ⟨told, ?_⟩
  rw [instants, cycles, List.head?_map, run.starts_eq.1, List.find?_map]
  -- By the clock, the deadline is the same instant.
  have delay : initialDelay updated w.wall w.interval =
      (updated.count + w.interval - w.wall.count).toNat :=
    initialDelay_eq ordinary step range
  have same :
      (fun c : Nat =>
        decide (w.clock + initialDelay updated w.wall w.interval ≤ c)) =
      (fun t : Instant =>
        decide (max w.wall.count (updated.count + w.interval) ≤ t.count)) ∘
        fun c : Nat => w.wall.shift (c - w.clock) := by
    funext c
    simp only [Function.comp_apply, Instant.count_shift,
      delay, decide_eq_decide]
    omega
  rw [same]
  rfl

end

/-! ### A run -/

/-- A watch over an empty database, with a source that answers once. -/
def shelf : Watch :=
  start ⟨.database {},
    .script { queue := [.ok sampleRules, .error (.unavailable "closed")] },
    .initial⟩ true 1000 ⟨0, 400⟩

/-- A refresh writes at 1100 nanoseconds, and an update of somebody else fails
behind it. -/
def sampleWrite : List Happening :=
  let detectors := [.contains [120]]
  [.tick 700 ⟨0, 1100⟩ false,
    .act (.advance ⟨0, .update, .turn .update⟩),
    .act (.advance ⟨0, .update, .asked⟩),
    .act (.advance ⟨0, .update, .fetched sampleRules⟩),
    .act (.advance ⟨0, .update, .compiled sampleRules detectors⟩),
    .act (.advance ⟨0, .update, .ready detectors⟩),
    .finish,
    .act (.call .update),
    .act (.grant ⟨1, .update, .turn .update⟩),
    .act (.advance ⟨1, .update, .turn .update⟩),
    .act (.advance ⟨1, .update, .asked⟩)]

def shelfAgain : Watch :=
  { shelf.entered.elapse sampleWrite with
    isEnabled := false, interval := 1000, clock := 0,
    wall := ⟨0, 1300⟩ }.restart

theorem shelfAgain_keeps_deadline :
    let es : List Happening :=
      [.tick 500 ⟨0, 1800⟩ false, .tick 700 ⟨0, 2000⟩ false,
        .tick 900 ⟨0, 2200⟩ false]
    shelfAgain.shared.store.lastUpdated = .ok ⟨0, 1100⟩ ∧
      ((shelfAgain.journal es).cycles.map (·.start.wall)).head? =
        some ⟨0, 2200⟩ := by
  intro es
  have before {a b : Nat} (le : a.ble b = true) : a ≤ b :=
    Nat.le_of_ble_eq_true le
  have elapses : shelf.entered.Elapses sampleWrite :=
    ⟨before rfl, ⟨.head _, rfl⟩, ⟨.head _, rfl⟩, ⟨.head _, rfl⟩, ⟨.head _, rfl⟩,
      ⟨.head _, rfl⟩, ⟨700, 0, .loaded 1, rfl, rfl, rfl⟩, trivial,
      ⟨.head _, .head _, rfl⟩, ⟨.head _, rfl⟩, ⟨.head _, rfl⟩, trivial⟩
  have history : History _ shelfAgain (some ⟨0, 1100⟩) :=
    ((History.enter (.start true 1000 ⟨0, 400⟩) rfl).elapse elapses).restart
      false 1000 0 ⟨0, 1300⟩
  have together : shelfAgain.Lockstep es := by
    intro clock wall stops here
    simp only [es, List.mem_cons, Happening.tick.injEq,
      List.not_mem_nil, or_false] at here
    rcases here with ⟨rfl, rfl, -⟩ | ⟨rfl, rfl, -⟩ | ⟨rfl, rfl, -⟩ <;> rfl
  have ticks : shelfAgain.entered.Elapses es :=
    ⟨before rfl, before rfl, before rfl, trivial⟩
  have kept := deadline_survives_restarts rfl history rfl rfl rfl
    ⟨by decide, by decide, .inl (by decide)⟩ ⟨rfl, rfl⟩ (by decide)
    (by decide) ticks (by decide) together
  exact ⟨kept.1, kept.2.trans rfl⟩

end Watch

end RuleWatch
