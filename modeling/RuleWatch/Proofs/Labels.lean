import Mathlib.Logic.Function.Basic
import RuleWatch.Proofs.Agreement
import RuleWatch.Proofs.Turns

/-!
Numbers for what is written. The writes to a store are numbered from 1 on, its
first content has the number 0, and a snapshot has the number of the content
that it was made from. Main statement: whatever the calls do side by side, the
snapshot in place has the number of the stored content unless a writer is about
to put it in place.
-/

namespace RuleWatch

/-- What has been written and put in place so far. Nothing that a watch does
depends on it. -/
structure Labels where
  written : List RuleSet := []
  /-- For each call the number of the content that it has written or read. -/
  marks : Nat → Nat := fun _ => 0
  /-- The number of the snapshot in place, if an update or a restore has put it
  there. -/
  current : Option Nat := none
  /-- The numbers of the snapshots that have been put in place, the first one
  first. -/
  installed : List Nat := []
  /-- The numbers of the snapshots that readers have obtained. -/
  seen : List Nat := []

namespace Labels

def last (l : Labels) : Nat := l.written.length

/-- A call goes by the content of the last write. -/
def mark (l : Labels) (id : Nat) : Labels :=
  { l with marks := Function.update l.marks id l.last }

def write (l : Labels) (rules : RuleSet) : Labels :=
  { l with written := l.written ++ [rules] }

def install (l : Labels) (k : Nat) : Labels :=
  { l with current := some k, installed := l.installed ++ [k] }

def see (l : Labels) : Labels := { l with seen := l.seen ++ l.current.toList }

def note (l : Labels) (id : Nat) : Stage → Stage → Labels
  | .turn .restore, .loaded _ => l.mark id
  | .compiled rules _, .ready _ => (l.write rules).mark id
  | .ready _, .done _ => l.install (l.marks id)
  | .turn .read, .done _ => l.see
  | _, _ => l

def after (l : Labels) (w : Watch) : Watch.Action → Labels
  | .advance t => l.note t.id t.stage (w.next t)
  | _ => l

def along (l : Labels) (w : Watch) : List Watch.Action → Labels
  | [] => l
  | a :: as => (l.after w a).along (w.after a) as

/-- The rules under a number, over a store that had a first content. -/
def Persisted (l : Labels) (first : Store) : Nat → RuleSet → Prop
  | 0, rules => first.Holds rules
  | k + 1, rules => l.written[k]? = some rules

/-- What a call that has its turn has made sure of. -/
def Warrants (l : Labels) (s : Shared) (id : Nat) : Stage → Prop
  | .compiled rules detectors => rules.compile = .ok detectors
  | .loaded raw => s.store.content.get = .ok (some raw) ∧ l.marks id = l.last
  | .decoded rules => s.store.Holds rules ∧ l.marks id = l.last
  | .ready detectors =>
      (∃ rules, s.store.Holds rules ∧ rules.compile = .ok detectors) ∧
        l.marks id = l.last
  | _ => True

section

variable {l l' : Labels} {s s' : Shared} {id : Nat} {stage : Stage}
  {first : Store} {rules other : RuleSet} {k : Nat}

/-- What a call has made sure of stands as long as nobody writes. -/
theorem Warrants.congr (h : l.Warrants s id stage)
    (content : s'.store.content = s.store.content)
    (marks : l'.marks id = l.marks id) (last : l'.last = l.last) :
    l'.Warrants s' id stage := by
  cases stage with
  | compiled rules detectors => exact h
  | loaded raw => exact ⟨content ▸ h.1, by rw [marks, last]; exact h.2⟩
  | decoded rules => exact ⟨h.1.congr content, by rw [marks, last]; exact h.2⟩
  | ready detectors =>
      obtain ⟨⟨rules, holds, compiled⟩, mark⟩ := h
      exact ⟨⟨rules, holds.congr content, compiled⟩,
        by rw [marks, last]; exact mark⟩
  | _ => trivial

theorem Persisted.write (h : l.Persisted first k rules) :
    (l.write other).Persisted first k rules := by
  cases k with
  | zero => exact h
  | succ k =>
      obtain ⟨lt, -⟩ := List.getElem?_eq_some_iff.1 h
      exact (List.getElem?_append_left lt).trans h

theorem persisted_last (h : l.written.getLast? = some rules) :
    l.Persisted first l.last rules := by
  rw [List.getLast?_eq_getElem?] at h
  obtain ⟨lt, -⟩ := List.getElem?_eq_some_iff.1 h
  obtain ⟨k, hk⟩ := Nat.exists_eq_succ_of_ne_zero
    (Nat.ne_of_gt (Nat.zero_lt_of_lt lt))
  rw [last, hk]
  rw [hk] at h
  exact h

theorem persisted_last_write :
    (l.write other).Persisted first (l.write other).last rules ↔
      rules = other := by
  simp only [last, write, List.length_append, List.length_singleton, Persisted,
    List.getElem?_concat_length, Option.some.injEq]
  exact eq_comm

end

end Labels

namespace Watch

/-- How the numbers go with a watch whose store had a first content. -/
structure Labelled (first : Store) (w : Watch) (l : Labels) : Prop where
  holds : ∀ rules, l.Persisted first l.last rules ↔ w.shared.store.Holds rules
  compiles : ∀ rules ∈ l.written, ∃ detectors, rules.compile = .ok detectors
  warrants :
      ∀ t ∈ w.tasks, w.lock.holds t.id = true → l.Warrants w.shared t.id t.stage
  /-- The last write is in place unless a call is about to put it there. -/
  newest :
      (∀ t ∈ w.tasks,
        w.lock.holds t.id = true → ∀ detectors, t.stage ≠ .ready detectors) →
        l.written = [] ∨ l.current = some l.last
  current : ∀ k, l.current = some k → k ∈ l.installed ∧
    ∃ rules, l.Persisted first k rules ∧
      rules.compile = .ok w.shared.snapshot.detectors
  installed : ∀ k ∈ l.installed, k ≤ l.last ∧
    ∃ rules detectors, l.Persisted first k rules ∧ rules.compile = .ok detectors
  /-- No write is left out but the last one. -/
  complete : ∀ k, 0 < k → k < l.last → k ∈ l.installed
  ascends : l.installed.Pairwise (· ≤ ·)
  seen : ∀ k ∈ l.seen, k ∈ l.installed

section

variable {first : Store} {w v : Watch} {l l' : Labels} {t : Task}

theorem Labelled.of_idle (lock : w.lock = {}) :
    Labelled w.shared.store w {} where
  holds := fun _ => Iff.rfl
  compiles := by simp
  warrants := by simp [lock, Lock.holds]
  newest := fun _ => .inl rfl
  current := by simp
  installed := by simp
  complete := by simp [Labels.last]
  ascends := .nil
  seen := by simp

/-- A step that neither writes nor puts anything in place keeps the numbers. -/
theorem Labelled.of_quiet (h : Labelled first w l) (order : w.Orderly)
    (ht : t ∈ w.tasks)
    (content : (w.advance t).shared.store.content = w.shared.store.content)
    (snapshot : (w.advance t).shared.snapshot = w.shared.snapshot)
    (busy : ∀ detectors, t.stage ≠ .ready detectors)
    (written : l'.written = l.written) (current : l'.current = l.current)
    (installed : l'.installed = l.installed)
    (seen : ∀ k ∈ l'.seen, k ∈ l.installed)
    (marks : ∀ id, id ≠ t.id → l'.marks id = l.marks id)
    (warrant : l'.Warrants (w.advance t).shared t.id (w.next t)) :
    Labelled first (w.advance t) l' := by
  have last : l'.last = l.last := by rw [Labels.last, written, Labels.last]
  have persisted (k : Nat) (rules : RuleSet) :
      l'.Persisted first k rules ↔ l.Persisted first k rules := by
    cases k with
    | zero => rfl
    | succ k => rw [Labels.Persisted, written, Labels.Persisted]
  constructor
  case holds =>
      intro rules
      rw [persisted, last, h.holds]
      exact ⟨fun holds => holds.congr content, fun holds =>
        holds.congr content.symm⟩
  case compiles =>
      rw [written]
      exact h.compiles
  case warrants =>
      intro u hu held
      rcases order.mem_tasks_advance ht hu with rfl | ⟨old, ne⟩
      · exact warrant
      · exact (h.warrants u old (holds_advance.1 held).1).congr content
          (marks _ ne) last
  case newest =>
      intro idle
      rw [written, current, last]
      refine h.newest fun u hu held => ?_
      by_cases same : u.id = t.id
      · rw [order.eq_of_id_eq ht hu same]
        exact busy
      · exact idle u (mem_advance_of_ne hu same)
          (holds_advance.2 ⟨held, fun id => absurd id same⟩)
  case current =>
      intro k hk
      obtain ⟨mem, rules, there, compiled⟩ := h.current k (current ▸ hk)
      exact ⟨installed ▸ mem, rules, (persisted k rules).2 there,
        snapshot ▸ compiled⟩
  case installed =>
      intro k hk
      obtain ⟨le, rules, detectors, there, compiled⟩ :=
        h.installed k (installed ▸ hk)
      exact ⟨last ▸ le, rules, detectors, (persisted k rules).2 there, compiled⟩
  case complete =>
      intro k pos lt
      exact installed ▸ h.complete k pos (last ▸ lt)
  case ascends => exact installed ▸ h.ascends
  case seen =>
      intro k hk
      exact installed ▸ seen k hk

/-- A write is the next content, and the call is about to put it in place. -/
theorem Labelled.write (h : Labelled first w l) (order : w.Orderly)
    (ht : t ∈ w.tasks) (held : w.lock.holds t.id = true) {rules : RuleSet}
    {detectors : List Detector} (stage : t.stage = .compiled rules detectors)
    (next : w.next t = .ready detectors)
    (snapshot : (w.advance t).shared.snapshot = w.shared.snapshot)
    (stored : (w.advance t).shared.store.Holds rules) :
    Labelled first (w.advance t) ((l.write rules).mark t.id) := by
  have compiled : rules.compile = .ok detectors := by
    have := h.warrants t ht held
    rwa [stage] at this
  have write : t.job.access = .write := by
    have := order.fits t ht
    rw [stage] at this
    rw [show t.job = .update from this]
    rfl
  have last : ((l.write rules).mark t.id).last = l.last + 1 := by
    simp [Labels.last, Labels.write, Labels.mark]
  have previous : l.written = [] ∨ l.current = some l.last := by
    refine h.newest fun u hu also => ?_
    rw [order.alone ht held write hu also, stage]
    simp
  constructor
  case holds =>
      intro other
      refine Iff.trans Labels.persisted_last_write
        ⟨?_, fun holds => stored.unique holds⟩
      rintro rfl
      exact stored
  case compiles =>
      intro other hm
      rcases List.mem_append.1 hm with old | new
      · exact h.compiles other old
      · obtain rfl := List.mem_singleton.1 new
        exact ⟨detectors, compiled⟩
  case warrants =>
      intro u hu also
      rw [order.eq_of_mem_advance ht held write hu also]
      simp only [next]
      exact ⟨⟨rules, stored, compiled⟩, by simp [Labels.mark, Labels.last]⟩
  case newest =>
      -- The call that has just written is the one that is about to put
      -- something in place.
      intro idle
      refine absurd next (idle _ (mem_advance_self ht) ?_ detectors)
      exact holds_advance.2 ⟨held, fun _ => by rw [next]; rfl⟩
  case current =>
      intro k hk
      obtain ⟨mem, other, there, compiled⟩ := h.current k hk
      exact ⟨mem, other, there.write, snapshot ▸ compiled⟩
  case installed =>
      intro k hk
      obtain ⟨le, other, ds, there, compiled⟩ := h.installed k hk
      exact ⟨by omega, other, ds, there.write, compiled⟩
  case complete =>
      intro k pos lt
      -- The write before this one is in place: nobody was about to put anything
      -- there.
      rw [last] at lt
      rcases Nat.lt_or_eq_of_le (Nat.le_of_lt_succ lt) with lt | rfl
      · exact h.complete k pos lt
      · rcases previous with none | some
        · rw [Labels.last, none] at pos
          cases pos
        · exact (h.current _ some).1
  case ascends => exact h.ascends
  case seen => exact h.seen

/-- What is put in place is made from the stored content, which has the number
of the last write. -/
theorem Labelled.put (h : Labelled first w l) {rules : RuleSet}
    (holds : w.shared.store.Holds rules)
    (compiled : rules.compile = .ok v.shared.snapshot.detectors)
    (store : v.shared.store = w.shared.store)
    (warrants : ∀ u ∈ v.tasks,
      v.lock.holds u.id = true → l.Warrants v.shared u.id u.stage) :
    Labelled first v (l.install l.last) := by
  have there : l.Persisted first l.last rules := (h.holds rules).2 holds
  constructor
  case holds =>
      rw [store]
      exact h.holds
  case compiles => exact h.compiles
  case warrants => exact fun u hu held => (warrants u hu held).congr rfl rfl rfl
  case newest => exact fun _ => .inr rfl
  case current =>
      intro k hk
      cases hk
      exact ⟨List.mem_append_right _ (List.mem_singleton_self _),
        rules, there, compiled⟩
  case installed =>
      intro k hk
      rcases List.mem_append.1 hk with old | new
      · exact h.installed k old
      · obtain rfl := List.mem_singleton.1 new
        exact ⟨Nat.le_refl _, rules, _, there, compiled⟩
  case complete =>
      intro k pos lt
      exact List.mem_append_left _ (h.complete k pos lt)
  case ascends =>
      refine List.pairwise_append.2 ⟨h.ascends, List.pairwise_singleton _ _, ?_⟩
      intro k hk j hj
      obtain rfl := List.mem_singleton.1 hj
      exact (h.installed k hk).1
  case seen =>
      intro k hk
      exact List.mem_append_left _ (h.seen k hk)

theorem Labelled.install (h : Labelled first w l) (order : w.Orderly)
    (ht : t ∈ w.tasks) (held : w.lock.holds t.id = true)
    {detectors : List Detector} (stage : t.stage = .ready detectors)
    {o : Outcome} (next : w.next t = .done o)
    (shared : (w.advance t).shared = w.shared.install detectors) :
    Labelled first (w.advance t) (l.install (l.marks t.id)) := by
  obtain ⟨⟨rules, holds, compiled⟩, mark⟩ :
      l.Warrants w.shared t.id (.ready detectors) := by
    have := h.warrants t ht held
    rwa [stage] at this
  have write := order.write_of_ready ht stage
  rw [mark]
  refine h.put holds (by rw [shared]; exact compiled)
    (by rw [shared]; rfl) fun u hu also => ?_
  rw [order.eq_of_mem_advance ht held write hu also]
  simp only [next]
  trivial

/-- The numbers go along with every step of every call. -/
theorem Labelled.advance (h : Labelled first w l) (order : w.Orderly)
    (ht : t ∈ w.tasks) (held : w.lock.holds t.id = true) :
    Labelled first (w.advance t) (l.note t.id t.stage (w.next t)) := by
  have warrant := h.warrants t ht held
  have how := steps_advance w t
  generalize hn : w.next t = next at how
  generalize hs : (w.advance t).shared = shared at how
  generalize hst : t.stage = stage at how warrant
  have quiet (l' : Labels) (written : l'.written = l.written)
      (current : l'.current = l.current)
      (installed : l'.installed = l.installed)
      (seen : ∀ k ∈ l'.seen, k ∈ l.installed)
      (marks : ∀ id, id ≠ t.id → l'.marks id = l.marks id)
      (content : shared.store.content = w.shared.store.content)
      (snapshot : shared.snapshot = w.shared.snapshot)
      (busy : ∀ detectors, stage ≠ .ready detectors)
      (sure : l'.Warrants shared t.id next) :
      Labelled first (w.advance t) l' := by
    subst hn hs hst
    exact h.of_quiet order ht content snapshot busy written current
      installed seen marks sure
  -- Only three kinds of steps are not quiet: those that read, write and put in
  -- place.
  cases how with
  | load read =>
      refine quiet (l.mark t.id) rfl rfl rfl h.seen ?_ rfl rfl (by simp) ?_
      · exact fun id ne => Function.update_of_ne ne _ _
      · exact ⟨Store.content_get_of_get read, Function.update_self _ _ _⟩
  | see =>
      refine quiet l.see rfl rfl rfl ?_ (fun _ _ => rfl) rfl
        rfl (by simp) trivial
      intro k hk
      rcases List.mem_append.1 hk with old | new
      · exact h.seen k old
      · exact (h.current k (Option.mem_toList.1 new)).1
  | write write =>
      exact h.write order ht held hst hn (by rw [hs])
        (by rw [hs]; exact Store.holds_of_set write)
  | install => exact h.install order ht held hst hn hs
  | compile compile =>
      exact quiet l rfl rfl rfl h.seen (fun _ _ => rfl) rfl
        rfl (by simp) compile
  | decode decode =>
      refine quiet l rfl rfl rfl h.seen (fun _ _ => rfl) rfl rfl
        (by simp) ⟨?_, warrant.2⟩
      exact ⟨_, warrant.1, decode⟩
  | accept compile =>
      exact quiet l rfl rfl rfl h.seen (fun _ _ => rfl) rfl rfl (by simp)
        ⟨⟨_, warrant.1, compile⟩, warrant.2⟩
  | stay =>
      exact quiet l rfl rfl rfl h.seen (fun _ _ => rfl) rfl
        rfl (by simp) trivial
  | _ =>
      exact quiet _ rfl rfl rfl h.seen (fun _ _ => rfl) rfl
        rfl (by simp) trivial

theorem Labelled.after (h : Labelled first w l) (order : w.Orderly) {a : Action}
    (allowed : w.Allows a) : Labelled first (w.after a) (l.after w a) := by
  cases a with
  | call job =>
      refine { h with warrants := ?_, newest := ?_ }
      · intro u hu held
        exact h.warrants u (order.mem_tasks_of_holds hu held) held
      · exact fun idle =>
          h.newest fun u hu => idle u (List.mem_append_left _ hu)
  | grant t =>
      obtain ⟨ht, waits, -⟩ := allowed
      refine { h with warrants := ?_, newest := ?_ }
      · intro u hu held
        rcases holds_grant.1 held with before | now
        · exact h.warrants u hu before
        · rw [order.eq_of_id_eq ht hu now, order.stage_of_waiting ht waits]
          trivial
      · exact fun idle =>
          h.newest fun u hu held => idle u hu (holds_grant.2 (.inl held))
  | advance t => exact h.advance order allowed.1 allowed.2
  | outside source x wall =>
      have same : (w.shared.store.under x).content = w.shared.store.content :=
        Store.content_under _ x
      refine { h with holds := ?_, warrants := ?_ }
      · intro rules
        exact (h.holds rules).trans
          ⟨fun holds => holds.congr same, fun holds => holds.congr same.symm⟩
      · exact fun u hu held => (h.warrants u hu held).congr same rfl rfl

theorem Labelled.play (h : Labelled first w l) (order : w.Orderly)
    {as : List Action} (plays : w.Plays as) :
    Labelled first (w.play as) (l.along w as) := by
  induction as generalizing w l with
  | nil => exact h
  | cons a as ih =>
      exact ih (h.after order plays.1) (order.after plays.1) plays.2

/-- A reader that has its turn finds the last write in place. -/
theorem Labelled.newest_of_reader (h : Labelled first w l) (order : w.Orderly)
    (ht : t ∈ w.tasks) (held : w.lock.holds t.id = true) (read : t.job = .read)
    {rules : RuleSet} (written : l.written.getLast? = some rules) :
    w.shared.store.Holds rules ∧ l.current = some l.last ∧
      rules.compile = .ok w.shared.snapshot.detectors := by
  have placed : l.written = [] ∨ l.current = some l.last := by
    refine h.newest fun u hu also detectors ready => ?_
    have write := order.write_of_ready hu ready
    rw [order.alone hu also write ht held] at read
    rw [read] at write
    cases write
  have holds := (h.holds rules).1 (Labels.persisted_last written)
  rcases placed with none | current
  · rw [none] at written
    cases written
  · obtain ⟨-, other, there, compiled⟩ := h.current _ current
    rw [holds.unique ((h.holds other).1 there)] at compiled
    exact ⟨holds, current, compiled⟩

end

end Watch

end RuleWatch
