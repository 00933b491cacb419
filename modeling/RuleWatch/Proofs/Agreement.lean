import RuleWatch.Proofs.Gates
import RuleWatch.Refresh.Stage

/-!
Store and snapshot agree. From the first call on that has put detectors in
place, the stored text decodes and compiles to exactly the detectors of the
snapshot; before it there are none, whatever the store holds. A call that puts
nothing in place changes neither side, and the others change both to rules of
one origin, which is read back as it was written.
-/

namespace RuleWatch

namespace Store

/-- Whether the text that a store keeps stands for a rule set. -/
def Holds (s : Store) (rules : RuleSet) : Prop :=
  ∃ raw, s.content.get = .ok (some raw) ∧
    RuleSet.decode (Text.encode raw) = .ok rules

theorem Holds.congr {s t : Store} {rules : RuleSet} (h : s.Holds rules)
    (same : t.content = s.content) : t.Holds rules := by
  obtain ⟨raw, stored, decoded⟩ := h
  exact ⟨raw, same ▸ stored, decoded⟩

theorem Holds.unique {s : Store} {rules other : RuleSet} (h : s.Holds rules)
    (h' : s.Holds other) : other = rules := by
  obtain ⟨raw, stored, decoded⟩ := h
  obtain ⟨raw', stored', decoded'⟩ := h'
  rw [stored] at stored'
  cases stored'
  rw [decoded] at decoded'
  cases decoded'
  rfl

theorem holds_of_set {s s' : Store} {rules : RuleSet} {now : Instant}
    (h : s.set (RuleSet.encode rules) now = .ok s') : s'.Holds rules :=
  ⟨RuleSet.encode rules, (set_eq_ok h).1, RuleSet.decode_written rules⟩

end Store

namespace Shared

def perform (s : Shared) (now : Instant) : Job → Outcome × Shared
  | .update => (.ofUpdate (s.update now).1, (s.update now).2.1)
  | .restore => (.ofRestore s.restore.1, s.restore.2.1)
  | .read => (.seen s.snapshot, s)

theorem perform_update {s s' : Shared} {now : Instant}
    {result : Except RefreshError Nat} {events : List Event}
    (h : s.update now = (result, s', events)) :
    s.perform now .update = (.ofUpdate result, s') := by
  rw [perform, h]

theorem perform_restore {s s' : Shared}
    {result : Except RefreshError (Option Nat)} {events : List Event}
    (h : s.restore = (result, s', events)) (now : Instant) :
    s.perform now .restore = (.ofRestore result, s') := by
  rw [perform, h]

/-- What can happen to a provider whose store nobody else writes: a call, or a
change of the source and of what fails in the store. -/
inductive Act
  | call (job : Job) (now : Instant)
  | change (source : Source) (x : Switches)

/-- What comes of a sequence of acts, with what the calls end with. -/
def run (s : Shared) : List Act → List Outcome × Shared
  | [] => ([], s)
  | .call job now :: acts =>
      let (outcome, s) := s.perform now job
      let (outcomes, s) := s.run acts
      (outcome :: outcomes, s)
  | .change source x :: acts =>
      { s with source, store := s.store.under x }.run acts

def startOutcomes (s : Shared) (enabled : Bool) : List Outcome :=
  if enabled then [.ofRestore (s.install []).restore.1] else []

/-- Whether the rules in the store compile to the detectors that are in
place. -/
def Agrees (s : Shared) : Prop :=
  ∃ rules, s.store.Holds rules ∧ rules.compile = .ok s.snapshot.detectors

theorem Agrees.congr {s t : Shared} (h : s.Agrees)
    (hc : t.store.content = s.store.content) (hd : t.snapshot = s.snapshot) :
    t.Agrees := by
  obtain ⟨rules, holds, compiled⟩ := h
  exact ⟨rules, holds.congr hc, hd ▸ compiled⟩

/-! ### Calls -/

/-- A refresh that puts detectors in place has stored the rules that they come
from. -/
theorem Refresh.agrees {s s' : Shared} {now : Instant} {n : Nat}
    (h : Refresh s now (.ok n) s') :
    s'.Agrees := by
  cases h with
  | @installed rules store answer good write =>
      exact ⟨rules, Store.holds_of_set write,
        RuleSet.compile_of_wellFormed good⟩

theorem Restore.agrees {s s' : Shared} {n : Nat}
    (h : Restore s (.ok (some n)) s') :
    s'.Agrees := by
  cases h with
  | @installed raw rules read decode good =>
      exact ⟨rules, ⟨raw, Store.content_get_of_get read, decode⟩,
        RuleSet.compile_of_wellFormed good⟩

/-- Behind a call, either store and snapshot agree or nothing has been put in
place. -/
theorem perform_cases (s : Shared) (now : Instant) (job : Job) :
    ((∃ n, (s.perform now job).1 = .loaded n) ∧ (s.perform now job).2.Agrees) ∨
      (∀ n, (s.perform now job).1 ≠ .loaded n) ∧
        (s.perform now job).2.snapshot = s.snapshot ∧
          (s.perform now job).2.store = s.store := by
  cases job with
  | update =>
      have how := refresh_update s now
      cases hr : (s.update now).1 with
      | ok n =>
          rw [hr] at how
          exact .inl ⟨⟨n, by simp [perform, hr, Outcome.ofUpdate]⟩, how.agrees⟩
      | error e =>
          have kept := how.keeps (by simp [hr])
          exact .inr ⟨by simp [perform, hr, Outcome.ofUpdate], kept⟩
  | restore =>
      have how := restore_restore s
      rcases hr : s.restore.1 with e | _ | n
      · have kept := how.keeps (by simp [hr])
        exact .inr ⟨by simp [perform, hr, Outcome.ofRestore],
          kept, how.store_eq⟩
      · have kept := how.keeps (by simp [hr])
        exact .inr ⟨by simp [perform, hr, Outcome.ofRestore],
          kept, how.store_eq⟩
      · rw [hr] at how
        exact .inl ⟨⟨n, by simp [perform, hr, Outcome.ofRestore]⟩, how.agrees⟩
  | read => exact .inr ⟨by simp [perform], rfl, rfl⟩

theorem perform_agrees {s : Shared} (h : s.Agrees) (now : Instant) (job : Job) :
    (s.perform now job).2.Agrees := by
  rcases perform_cases s now job with ⟨-, agrees⟩ | ⟨-, hs, ht⟩
  · exact agrees
  · exact h.congr (by rw [ht]) hs

/-! ### Runs -/

theorem run_agrees {s : Shared} (h : s.Agrees) (acts : List Act) :
    (s.run acts).2.Agrees := by
  induction acts generalizing s with
  | nil => exact h
  | cons act acts ih =>
      cases act with
      | call job now => exact ih (perform_agrees h now job)
      | change source x =>
          exact ih (h.congr (Store.content_under s.store x) rfl)

/-- A run in which nothing is put in place ends with the snapshot that it began
with, and any other run ends in agreement. -/
theorem run_cases (s : Shared) (acts : List Act) :
    ((∃ n, .loaded n ∈ (s.run acts).1) ∧ (s.run acts).2.Agrees) ∨
      (∀ n, .loaded n ∉ (s.run acts).1) ∧
        (s.run acts).2.snapshot = s.snapshot := by
  induction acts generalizing s with
  | nil => exact .inr ⟨by simp [run], rfl⟩
  | cons act acts ih =>
      cases act with
      | call job now =>
          rcases perform_cases s now job
            with ⟨⟨n, loaded⟩, agrees⟩ | ⟨idle, hs, -⟩
          · exact .inl ⟨⟨n, by simp [run, loaded]⟩, run_agrees agrees acts⟩
          · rcases ih (s.perform now job).2
              with ⟨⟨n, loaded⟩, agrees⟩ | ⟨none, same⟩
            · exact .inl ⟨⟨n, List.mem_cons_of_mem _ loaded⟩, agrees⟩
            · refine .inr ⟨fun n hn => ?_, same.trans hs⟩
              rcases List.mem_cons.1 hn with first | later
              · exact idle n first.symm
              · exact none n later
      | change source x => exact ih _

theorem start_cases (s : Shared) (enabled : Bool) :
    ((∃ n, .loaded n ∈ s.startOutcomes enabled) ∧ (s.start enabled).1.Agrees) ∨
      (∀ n, .loaded n ∉ s.startOutcomes enabled) ∧
        (s.start enabled).1.snapshot.detectors = [] := by
  cases enabled with
  | false => exact .inr ⟨by simp [startOutcomes], rfl⟩
  | true =>
      rcases perform_cases (s.install []) .epoch
        .restore with ⟨⟨n, loaded⟩, agrees⟩ | ⟨idle, hs, -⟩
      · refine .inl ⟨⟨n, ?_⟩, agrees⟩
        rw [startOutcomes, if_pos rfl, List.mem_singleton]
        exact loaded.symm
      · refine .inr ⟨fun n hn => ?_, congrArg Snapshot.detectors hs⟩
        rw [startOutcomes, if_pos rfl, List.mem_singleton] at hn
        exact idle n hn.symm

/-- Store and snapshot never disagree: without a success there are no detectors,
and after one the stored text decodes and compiles to exactly those in place. -/
theorem store_and_snapshot_agree (fresh : Shared) (enabled : Bool)
    (acts : List Act) :
    let outcomes :=
      fresh.startOutcomes enabled ++ ((fresh.start enabled).1.run acts).1
    let s := ((fresh.start enabled).1.run acts).2
    ((∀ n, .loaded n ∉ outcomes) → s.snapshot.detectors = []) ∧
      ((∃ n, .loaded n ∈ outcomes) →
        ∃ raw rules, s.store.content.get = .ok (some raw) ∧
          RuleSet.decode (Text.encode raw) = .ok rules ∧
          rules.compile = .ok s.snapshot.detectors) := by
  intro outcomes s
  have unfolded (h : s.Agrees) :
      ∃ raw rules, s.store.content.get = .ok (some raw) ∧
      RuleSet.decode (Text.encode raw) = .ok rules ∧
      rules.compile = .ok s.snapshot.detectors := by
    obtain ⟨rules, ⟨raw, stored, decoded⟩, compiled⟩ := h
    exact ⟨raw, rules, stored, decoded, compiled⟩
  rcases run_cases (fresh.start enabled).1 acts
    with ⟨⟨n, loaded⟩, agrees⟩ | ⟨none, same⟩
  · exact ⟨fun h => absurd (List.mem_append_right _ loaded) (h n),
      fun _ => unfolded agrees⟩
  · rcases start_cases fresh enabled with ⟨⟨n, loaded⟩, agrees⟩ | ⟨idle, empty⟩
    · exact ⟨fun h => absurd (List.mem_append_left _ loaded) (h n), fun _ =>
        unfolded (run_agrees agrees acts)⟩
    · refine ⟨fun _ => (congrArg Snapshot.detectors same).trans empty,
        fun ⟨n, hn⟩ => ?_⟩
      rcases List.mem_append.1 hn with first | later
      · exact absurd first (idle n)
      · exact absurd later (none n)

end Shared

end RuleWatch
