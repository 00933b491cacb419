import RuleWatch.Proofs.Labels

/-!
Lives over one store. A watch may be killed between any two steps of its calls,
and another one starts over what the store holds by then. Main statement: the
new one restores what the last write has left, which is never older than what a
reader has seen, and never ahead of what has been put in place by more than one
write.
-/

namespace RuleWatch

namespace Shared

variable {s : Shared} {rules : RuleSet} {detectors : List Detector}
  {enabled : Bool} {n : Nat}

theorem startOutcomes_eq_of_mem (h : .loaded n ∈ s.startOutcomes enabled) :
    s.startOutcomes enabled = [.loaded n] := by
  cases enabled with
  | false => cases h
  | true =>
      rw [show s.startOutcomes true = [_] from rfl, ← List.mem_singleton.1 h]

theorem startOutcomes_of_holds (readable : s.store.isReadable = true)
    (holds : s.store.Holds rules) (compiled : rules.compile = .ok detectors) :
    s.startOutcomes true = [.loaded detectors.length] := by
  obtain ⟨raw, stored, decoded⟩ := holds
  have read : (s.install []).store.get = .ok (some raw) :=
    (Store.get_eq_of_isReadable readable).trans stored
  obtain ⟨good, rfl⟩ := RuleSet.wellFormed_of_compile compiled
  rw [startOutcomes, if_pos rfl, restore_installed read decoded good]
  rfl

end Shared

namespace Labels

/-- The numbers when a provider starts: what it restores has the number of the
stored content. -/
def renew (l : Labels) : List Outcome → Labels
  | [.loaded _] => l.install l.last
  | _ => { l with current := none }

end Labels

namespace Watch

def revive (w : Watch) : Watch := { w with isEnabled := true }.restart

/-- What there can be after any number of lives over one store, each but the
first one begun with the feature turned on while reading works. -/
inductive Lived (fresh : Shared) : Watch → Labels → Prop
  | start (enabled : Bool) (interval : Nat) (wall : Instant) :
      Lived fresh (Watch.start fresh enabled interval wall)
        (Labels.renew {} (fresh.startOutcomes enabled))
  | act {w : Watch} {l : Labels} {a : Action} (before : Lived fresh w l)
      (allowed : w.Allows a) :
      Lived fresh (w.after a) (l.after w a)
  | kill {w : Watch} {l : Labels} (before : Lived fresh w l)
      (readable : w.shared.store.isReadable = true) :
      Lived fresh w.revive (l.renew (w.shared.startOutcomes true))

section

variable {first : Store} {fresh : Shared} {w v : Watch} {l : Labels} {k : Nat}

theorem Lived.play (h : Lived fresh w l) {as : List Action}
    (plays : w.Plays as) :
    Lived fresh (w.play as) (l.along w as) := by
  induction as generalizing w l with
  | nil => exact h
  | cons a as ih => exact ih (h.act plays.1) plays.2

theorem Lived.orderly (h : Lived fresh w l) : w.Orderly := by
  induction h with
  | start enabled interval wall => exact .of_idle rfl rfl
  | act before allowed ih => exact ih.after allowed
  | kill before readable ih => exact .of_idle rfl rfl

/-- A start over a store with numbers, where the last write is restored if there
is one. -/
theorem Labelled.renew (h : Labelled first w l) (enabled : Bool)
    (restored : l.written = [] ∨
      ∃ n, w.shared.startOutcomes enabled = [.loaded n])
    (shared : v.shared = (w.shared.start enabled).1) (lock : v.lock = {}) :
    Labelled first v (l.renew (w.shared.startOutcomes enabled)) := by
  have store : v.shared.store = w.shared.store := by
    rw [shared, Shared.start_store]
  have free (t : Task) : v.lock.holds t.id ≠ true := by simp [lock, Lock.holds]
  rcases w.shared.start_cases enabled with ⟨⟨n, loaded⟩, agrees⟩ | ⟨idle, -⟩
  · rw [Shared.startOutcomes_eq_of_mem loaded]
    obtain ⟨rules, holds, compiled⟩ := agrees
    rw [Shared.start_store] at holds
    exact h.put holds (by rw [shared]; exact compiled) store fun t _ held =>
      absurd held (free t)
  · have none : l.renew (w.shared.startOutcomes enabled) =
        { l with current := none } := by
      unfold Labels.renew
      split
      · rename_i same
        exact absurd (same ▸ List.mem_singleton_self _) (idle _)
      · rfl
    rw [none]
    refine { h with holds := ?_, warrants := ?_, newest := ?_, current := ?_ }
    · rw [store]
      exact h.holds
    · exact fun t _ held => absurd held (free t)
    · intro _
      rcases restored with nothing | ⟨n, same⟩
      · exact .inl nothing
      · exact absurd (same ▸ List.mem_singleton_self _) (idle n)
    · intro k hk
      cases hk

/-- What the store holds can be restored once something has been written or put
in place. -/
theorem Labelled.restorable (h : Labelled first w l)
    (some : l.written ≠ [] ∨ k ∈ l.installed) :
    ∃ rules detectors, l.Persisted first l.last rules ∧
      rules.compile = .ok detectors := by
  rcases Nat.eq_zero_or_pos l.last with zero | pos
  · have nothing : l.written = [] := List.length_eq_zero_iff.1 zero
    obtain ⟨le, there⟩ := h.installed k (some.resolve_left (absurd nothing))
    rwa [show k = l.last by omega] at there
  · obtain ⟨j, hj⟩ := Nat.exists_eq_succ_of_ne_zero (Nat.ne_of_gt pos)
    have lt : j < l.written.length := by
      rw [Labels.last] at hj
      omega
    obtain ⟨detectors, compiled⟩ :=
      h.compiles l.written[j] (List.getElem_mem lt)
    refine ⟨l.written[j], detectors, ?_, compiled⟩
    rw [hj]
    exact List.getElem?_eq_getElem lt

theorem Lived.labelled (h : Lived fresh w l) : Labelled fresh.store w l := by
  induction h with
  | start enabled interval wall =>
      let blank : Watch :=
        { shared := fresh, isEnabled := enabled, interval, wall }
      have h : Labelled blank.shared.store blank {} := .of_idle rfl
      exact h.renew enabled (.inl rfl) rfl rfl
  | act before allowed ih => exact ih.after before.orderly allowed
  | @kill w l before readable ih =>
      refine ih.renew true ?_ rfl rfl
      by_cases nothing : l.written = []
      · exact .inl nothing
      · obtain ⟨rules, detectors, there, compiled⟩ :=
          ih.restorable (k := 0) (.inl nothing)
        exact .inr ⟨_, Shared.startOutcomes_of_holds readable
          ((ih.holds rules).1 there) compiled⟩

/-- A kill never loses what a reader has seen: wherever it comes, the next start
restores the last write, and no other rules than those that were written under
its number. -/
theorem seen_is_restored (lived : Lived fresh w l)
    (readable : w.shared.store.isReadable = true) (seen : k ∈ l.seen) :
    (∃ n, w.shared.startOutcomes true = [.loaded n]) ∧
      (l.renew (w.shared.startOutcomes true)).current = some l.last ∧
      (∀ j ∈ l.seen, j ≤ l.last) ∧ (∃ j ∈ l.installed, l.last ≤ j + 1) ∧
      ∃ rules, l.Persisted fresh.store l.last rules ∧
        rules.compile = .ok w.revive.shared.snapshot.detectors := by
  have h := lived.labelled
  -- What has been seen has been put in place, so there are rules that compile
  -- in the store.
  have placed := h.seen k seen
  obtain ⟨rules, detectors, there, compiled⟩ := h.restorable (.inr placed)
  have loaded :=
    Shared.startOutcomes_of_holds readable ((h.holds rules).1 there) compiled
  have next := (lived.kill readable).labelled
  have current : (l.renew (w.shared.startOutcomes true)).current =
      some l.last := by
    rw [loaded]
    rfl
  refine ⟨⟨_, loaded⟩, current,
    fun j hj => (h.installed j (h.seen j hj)).1, ?_, ?_⟩
  · by_cases few : l.last ≤ 1
    · exact ⟨k, placed, by omega⟩
    · exact ⟨l.last - 1, h.complete _ (by omega) (by omega), by omega⟩
  · obtain ⟨-, rules, there, compiled⟩ := next.current _ current
    refine ⟨rules, ?_, compiled⟩
    rw [loaded] at there
    exact there

end

theorem sampleRun_is_restored :
    let l := (Labels.renew {} [.nothing]).along sample sampleRun
    l.seen = [1] ∧
      ∃ n, (sample.play sampleRun).shared.startOutcomes true = [.loaded n] := by
  have lived : Lived _ sample (Labels.renew {} [.nothing]) :=
    .start true 0 .epoch
  exact ⟨rfl,
    (seen_is_restored (lived.play plays_sampleRun) rfl
      (List.mem_singleton_self 1)).1⟩

end Watch

end RuleWatch
