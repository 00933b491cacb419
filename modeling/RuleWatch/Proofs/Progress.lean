import Mathlib.Algebra.Order.BigOperators.Group.List
import Mathlib.Algebra.Order.Ring.Nat
import RuleWatch.Proofs.Timeline

/-!
Calls at work go on. A call of the loop has its turn or waits for it, and has
only so much before it. Main statement: where a call is at work, some call can
take its turn or make a step, and comes nearer to its end by it.
-/

namespace RuleWatch

namespace Watch

section

variable {w : Watch} {t : Task} {e : Happening} {es : List Happening} {id : Nat}

def Queues (w : Watch) (id : Nat) : Prop :=
  ∀ t ∈ w.tasks, t.id = id → t.stage.outcome? = none →
    w.lock.holds id = true ∨ t.turn ∈ w.lock.waiting

/-- All that the calls at work have before them. -/
def left (w : Watch) : Nat :=
  (w.tasks.map (·.stage.remaining)).sum + w.lock.waiting.length

theorem Queues.after (h : w.Queues id) (order : w.Orderly) {a : Action}
    (allowed : w.Allows a) :
    (w.after a).Queues id := by
  cases a with
  | call job =>
      intro u hu same working
      rcases mem_tasks_enqueue hu with old | rfl
      · exact (h u old same working).imp_right (List.mem_append_left _)
      · exact .inr (List.mem_append_right _ (List.mem_singleton_self _))
  | grant t =>
      intro u hu same working
      rcases h u hu same working with held | waits
      · exact .inl (holds_grant.2 (.inl held))
      · by_cases turn : u.turn = t.turn
        · exact .inl (holds_grant.2
            (.inr (same.symm.trans (congrArg Turn.client turn))))
        · exact .inr ((List.mem_erase_of_ne turn).2 waits)
  | advance t =>
      intro u hu same working
      rcases order.mem_tasks_advance allowed.1 hu with rfl | ⟨old, ne⟩
      · refine .inl (holds_advance.2 ⟨?_, fun _ => working⟩)
        rw [← same]
        exact allowed.2
      · rcases h u old same working with held | waits
        · exact .inl (holds_advance.2
            ⟨held, fun other => absurd (same.trans other) ne⟩)
        · refine .inr ?_
          change _ ∈
            (if (w.next t).outcome?.isSome then w.lock.release t.id
              else w.lock).waiting
          split
          · exact List.mem_filter.2 ⟨waits, decide_eq_true ne⟩
          · exact waits
  | outside source x wall => exact h

theorem Queues.play (h : w.Queues id) (order : w.Orderly) {as : List Action}
    (plays : w.Plays as) :
    (w.play as).Queues id := by
  induction as generalizing w with
  | nil => exact h
  | cons a as ih =>
      exact ih (h.after order plays.1) (order.after plays.1) plays.2

theorem queues_wake (order : w.Orderly)
    (h : ∀ id, w.cycle = some id → w.Queues id) :
    ∀ id, w.wake.cycle = some id → w.wake.Queues id := by
  have how := looks w (Journal.opened w)
  generalize w.wake = v, (Journal.opened w).look w = k at how
  cases how with
  | stop loop stopped => exact h
  | wait loop goes early => exact h
  | rest busy => exact h
  | refresh loop goes due =>
      intro id cycle
      obtain rfl : w.begun = id := Option.some.inj cycle
      have logged :
          ({ w with log := w.log ++ [.refreshing] } : Watch).Orderly :=
        { order with }
      have fresh :
          ({ w with log := w.log ++ [.refreshing] } : Watch).Queues
            w.begun := by
        intro t ht same
        exact absurd same (Nat.ne_of_lt (order.begun t ht))
      obtain ⟨as, plays, same, -⟩ := plays_call logged .update
      have called := fresh.play logged plays
      rw [same] at called
      exact called

theorem queues_happen (order : w.Orderly) (can : w.CanHappen e)
    (h : ∀ id, w.cycle = some id → w.Queues id) :
    ∀ id, (w.happen e).cycle = some id → (w.happen e).Queues id := by
  cases e with
  | act a =>
      intro id cycle
      rw [Watch.happen, (act_loop w (.opened w) a).2.1] at cycle
      exact (h id cycle).after order (allows_of_canHappen can)
  | tick clock wall stops =>
      exact queues_wake (w := w.arrive clock wall stops) { order with } h
  | finish =>
      obtain ⟨since, id, o, loop, cycle, ended⟩ := can
      rw [Watch.happen, finish_eq_taken loop cycle ended]
      refine queues_wake (order.taken ended) ?_
      intro id none
      cases none

theorem queues_elapse (order : w.Orderly) (elapses : w.Elapses es)
    (h : ∀ id, w.cycle = some id → w.Queues id) :
    ∀ id, (w.elapse es).cycle = some id → (w.elapse es).Queues id := by
  let P (w : Watch) (_ : Journal) : Prop :=
    w.Orderly ∧ ∀ id, w.cycle = some id → w.Queues id
  have all : P (w.elapse es) ((Journal.opened w).along w es) :=
    elapse_induction (fun _ ⟨order, h⟩ can =>
      ⟨order.happen can, queues_happen order can h⟩)
      ⟨order, h⟩ elapses
  exact all.2

theorem left_grant_lt (waits : t.turn ∈ w.lock.waiting) :
    (w.grant t).left < w.left := by
  have length : (w.lock.waiting.erase t.turn).length =
      w.lock.waiting.length - 1 :=
    List.length_erase_of_mem waits
  have := List.length_pos_of_mem waits
  change (w.tasks.map (·.stage.remaining)).sum +
    (w.lock.waiting.erase t.turn).length <
    (w.tasks.map (·.stage.remaining)).sum + w.lock.waiting.length
  omega

/-- A step brings the calls nearer to their ends. -/
theorem remaining_advance_lt (order : w.Orderly) (ht : t ∈ w.tasks)
    (working : t.stage.outcome? = none) :
    ((w.advance t).tasks.map (·.stage.remaining)).sum <
      (w.tasks.map (·.stage.remaining)).sum := by
  have less := Stage.remaining_step_lt w.wall w.shared t.stage working
  simp only [advance, List.map_map]
  refine List.sum_lt_sum _ _ (fun u hu => ?_) ⟨t, ht, ?_⟩
  · simp only [Function.comp_apply]
    split
    · rename_i same
      rw [order.eq_of_id_eq ht hu same]
      exact Nat.le_of_lt less
    · exact Nat.le_refl _
  · simpa [next] using less

theorem left_advance_lt (order : w.Orderly) (ht : t ∈ w.tasks)
    (working : t.stage.outcome? = none) :
    (w.advance t).left < w.left := by
  have waiting : (w.advance t).lock.waiting.length ≤ w.lock.waiting.length := by
    change (if (w.next t).outcome?.isSome then w.lock.release t.id
      else w.lock).waiting.length ≤ _
    split
    · exact List.length_filter_le _ _
    · exact Nat.le_refl _
  exact Nat.add_lt_add_of_lt_of_le
    (remaining_advance_lt order ht working) waiting

theorem outcome?_of_task (order : w.Orderly) (ht : t ∈ w.tasks) :
    w.outcome? t.id = t.stage.outcome? := by
  cases found : w.tasks.find? (·.id = t.id) with
  | none =>
      have := List.find?_eq_none.1 found t ht
      simp at this
  | some u =>
      have same := List.find?_some found
      rw [outcome?, found,
        order.eq_of_id_eq ht (List.mem_of_find?_eq_some found)
          (of_decide_eq_true same)]
      rfl

/-- Where a call is at work that has its turn or waits for it, some call can go
on. -/
theorem exists_step (order : w.Orderly) (queues : w.Queues id)
    (ht : t ∈ w.tasks) (own : t.id = id) (working : t.stage.outcome? = none) :
    ∃ u, ∃ a, (a = .grant u ∨ a = .advance u) ∧ w.Allows a ∧
      (w.after a).left < w.left := by
  cases holders : w.lock.holders with
  | nil =>
      rcases queues t ht own working with held | waits
      · obtain ⟨turn, hm, -⟩ := Lock.holds_eq_true_iff.1 held
        rw [holders] at hm
        cases hm
      · refine ⟨t, .grant t, .inl rfl, ⟨ht, waits, ?_⟩, left_grant_lt waits⟩
        rw [holders, Lock.admits]
        split <;> rfl
  | cons turn turns =>
      have hm : turn ∈ w.lock.holders := by simp [holders]
      obtain ⟨u, hu, rfl, working⟩ := order.holder turn hm
      exact ⟨u, .advance u, .inr rfl,
        ⟨hu, Lock.holds_eq_true_iff.2 ⟨_, hm, rfl⟩⟩,
        left_advance_lt order hu working⟩

end

end Watch

end RuleWatch
