import RuleWatch.Proofs.Compiling
import RuleWatch.Proofs.StoredContent
import RuleWatch.Proofs.WrittenRules
import RuleWatch.Refresh.Cycle

/-!
The gates of a refresh and of a restore. Both go through their gates in a fixed
order, the first gate that stays shut decides the error, and only a call that
has passed them all changes anything.
-/

namespace RuleWatch

namespace Source

@[simp] theorem answer_ask (source : Source) :
    source.ask.answer.1 = source.answer.1 := by
  cases source with
  | script s =>
      simp only [ask, answer, Script.take]
      cases s.queue <;> rfl
  | api base network => rfl

theorem calls_answer_ask (script : Script) :
    (Source.script script).ask.answer.2.1.calls = script.calls + 1 := by
  simp only [ask, answer, Script.take]
  cases script.queue <;> rfl

end Source

theorem Event.skipped_of_mem_ofCompiling {rules : RuleSet} {e : Event}
    (h : e ∈ Event.ofCompiling rules) : ∃ r, e = .skipped r := by
  obtain ⟨r, -, rfl⟩ := List.mem_map.1 h
  exact ⟨r, rfl⟩

namespace Shared

def called (s : Shared) : Shared := { s with source := s.source.ask.answer.2.1 }

@[simp] theorem called_store (s : Shared) : s.called.store = s.store := rfl

section

variable {s s' : Shared} {now : Instant} {rules : RuleSet}

/-! ### The gates of a refresh -/

theorem answer_asked (s : Shared) :
    ({ s with source := s.source.ask } : Shared).answer =
    (s.source.answer.1, s.called, s.source.ask.answer.2.2) := by
  simp [answer, called]

theorem update_unfetched {e : FetchError} (ha : s.source.answer.1 = .error e) :
    s.update now = (.error (.fetch e), s.called, s.source.ask.answer.2.2) := by
  unfold update
  rw [answer_asked, ha]

theorem update_refused (now : Instant) (ha : s.source.answer.1 = .ok rules)
    {e : CompileError} (hc : rules.compile = .error e) :
    s.update now = (.error (.compile e), s.called,
      s.source.ask.answer.2.2 ++ Event.ofCompiling rules) := by
  unfold update
  rw [answer_asked, ha]
  simp only [hc]

/-- Malformed rules are refused before anything is written, whether writing
would work or not. -/
theorem update_malformed (now : Instant) (ha : s.source.answer.1 = .ok rules)
    (hm : ∃ r ∈ rules, r.IsMalformed) :
    ∃ failures, s.update now = (.error (.compile (.batch failures)), s.called,
      s.source.ask.answer.2.2 ++ Event.ofCompiling rules) :=
  ⟨_, update_refused now ha (RuleSet.compile_of_malformed hm)⟩

theorem update_unwritten (ha : s.source.answer.1 = .ok rules)
    (hg : ∀ r ∈ rules, ¬ r.IsMalformed) {e : StoreError}
    (hw : s.store.set (RuleSet.encode rules) now = .error e) :
    s.update now = (.error (.storeWrite e), s.called,
      s.source.ask.answer.2.2 ++ Event.ofCompiling rules) := by
  unfold update
  rw [answer_asked, ha]
  simp only [RuleSet.compile_of_wellFormed hg, keep, called_store, hw]

theorem update_installed (ha : s.source.answer.1 = .ok rules)
    (hg : ∀ r ∈ rules, ¬ r.IsMalformed) {store : Store}
    (hw : s.store.set (RuleSet.encode rules) now = .ok store) :
    s.update now = (.ok rules.detectors.length,
      { s.called with store }.install rules.detectors,
      s.source.ask.answer.2.2 ++ Event.ofCompiling rules) := by
  unfold update
  rw [answer_asked, ha]
  simp only [RuleSet.compile_of_wellFormed hg, keep, called_store, hw]

/-- How a refresh goes, by the last gate that it comes to. -/
inductive Refresh (s : Shared) (now : Instant) :
    Except RefreshError Nat → Shared → Prop
  | unfetched {e} (answer : s.source.answer.1 = .error e) :
      Refresh s now (.error (.fetch e)) s.called
  | malformed {rules : RuleSet} {failures}
      (answer : s.source.answer.1 = .ok rules)
      (bad : ∃ r ∈ rules, r.IsMalformed) :
      Refresh s now (.error (.compile (.batch failures))) s.called
  | unwritten {rules : RuleSet} {e} (answer : s.source.answer.1 = .ok rules)
      (good : ∀ r ∈ rules, ¬ r.IsMalformed)
      (write : s.store.set (RuleSet.encode rules) now = .error e) :
      Refresh s now (.error (.storeWrite e)) s.called
  | installed {rules : RuleSet} {store} (answer : s.source.answer.1 = .ok rules)
      (good : ∀ r ∈ rules, ¬ r.IsMalformed)
      (write : s.store.set (RuleSet.encode rules) now = .ok store) :
      Refresh s now (.ok rules.detectors.length)
        ({ s.called with store }.install rules.detectors)

theorem refresh_update (s : Shared) (now : Instant) :
    Refresh s now (s.update now).1 (s.update now).2.1 := by
  cases ha : s.source.answer.1 with
  | error e =>
      rw [update_unfetched ha]
      exact .unfetched ha
  | ok rules =>
      rcases rules.compile_cases with ⟨-, good⟩ | ⟨-, bad⟩
      · cases hw : s.store.set (RuleSet.encode rules) now with
        | error e =>
            rw [update_unwritten ha good hw]
            exact .unwritten ha good hw
        | ok store =>
            rw [update_installed ha good hw]
            exact .installed ha good hw
      · obtain ⟨failures, h⟩ := update_malformed now ha bad
        rw [h]
        exact .malformed ha bad

section

variable {result : Except RefreshError Nat}

theorem Refresh.source_eq (h : Refresh s now result s') :
    s'.source = s.source.ask.answer.2.1 := by
  cases h <;> rfl

theorem Refresh.ne_encode (h : Refresh s now result s') (cause : Json.Refusal) :
    result ≠ .error (.encode cause) := by
  cases h <;> simp

/-- A refresh that fails leaves the snapshot and the store as they are. -/
theorem Refresh.keeps (h : Refresh s now result s')
    (failed : ∀ n, result ≠ .ok n) :
    s'.snapshot = s.snapshot ∧ s'.store = s.store := by
  cases h with
  | unfetched => exact ⟨rfl, rfl⟩
  | malformed => exact ⟨rfl, rfl⟩
  | unwritten => exact ⟨rfl, rfl⟩
  | installed => exact absurd rfl (failed _)

end

/-- A refresh fetches once and logs nothing else but the rules that it passes
over. -/
theorem update_events (s : Shared) (now : Instant) :
    ∃ rest, (s.update now).2.2 = s.source.ask.answer.2.2 ++ rest ∧
      ∀ e ∈ rest, ∃ r, e = Event.skipped r := by
  cases ha : s.source.answer.1 with
  | error e => exact ⟨[], by simp [update_unfetched ha]⟩
  | ok rules =>
      refine ⟨Event.ofCompiling rules, ?_, fun e =>
        Event.skipped_of_mem_ofCompiling⟩
      rcases rules.compile_cases with ⟨-, good⟩ | ⟨-, bad⟩
      · cases hw : s.store.set (RuleSet.encode rules) now with
        | error e => rw [update_unwritten ha good hw]
        | ok store => rw [update_installed ha good hw]
      · obtain ⟨failures, h⟩ := update_malformed now ha bad
        rw [h]

/-! ### The gates of a restore -/

variable {raw : String}

theorem storedRules_of_decode (hd : RuleSet.decode (Text.encode raw) =
    .ok rules) :
    storedRules raw = .ok rules := by
  rw [storedRules, hd]
  rfl

theorem restore_unread {e : StoreError} (hr : s.store.get = .error e) :
    s.restore = (.error (.storeRead e), s, []) := by
  simp only [restore, hr]

theorem restore_empty (hr : s.store.get = .ok none) :
    s.restore = (.ok none, s, []) := by
  simp only [restore, hr]

theorem restore_undecoded (hr : s.store.get = .ok (some raw))
    {cause : Json.Refusal}
    (hd : RuleSet.decode (Text.encode raw) = .error cause) :
    s.restore = (.error (.decode cause), s, []) := by
  have hs : storedRules raw = .error (.decode cause) := by
    rw [storedRules, hd]
    rfl
  simp only [restore, hr, hs]

theorem restore_refused (hr : s.store.get = .ok (some raw))
    (hd : RuleSet.decode (Text.encode raw) = .ok rules) {e : CompileError}
    (hc : rules.compile = .error e) :
    s.restore = (.error (.compile e), s, Event.ofCompiling rules) := by
  simp only [restore, hr, storedRules_of_decode hd, hc]

theorem restore_malformed (hr : s.store.get = .ok (some raw))
    (hd : RuleSet.decode (Text.encode raw) = .ok rules)
    (hm : ∃ r ∈ rules, r.IsMalformed) :
    ∃ failures, s.restore =
      (.error (.compile (.batch failures)), s, Event.ofCompiling rules) :=
  ⟨_, restore_refused hr hd (RuleSet.compile_of_malformed hm)⟩

theorem restore_installed (hr : s.store.get = .ok (some raw))
    (hd : RuleSet.decode (Text.encode raw) = .ok rules)
    (hg : ∀ r ∈ rules, ¬ r.IsMalformed) :
    s.restore = (.ok (some rules.detectors.length), s.install rules.detectors,
      Event.ofCompiling rules) := by
  simp only [restore, hr, storedRules_of_decode hd,
    RuleSet.compile_of_wellFormed hg]

/-- How a restore goes, by the last gate that it comes to. -/
inductive Restore (s : Shared) :
    Except RefreshError (Option Nat) → Shared → Prop
  | unread {e} (read : s.store.get = .error e) :
      Restore s (.error (.storeRead e)) s
  | empty (read : s.store.get = .ok none) : Restore s (.ok none) s
  | undecoded {raw : String} {cause} (read : s.store.get = .ok (some raw))
      (decode : RuleSet.decode (Text.encode raw) = .error cause) :
      Restore s (.error (.decode cause)) s
  | malformed {raw : String} {rules : RuleSet} {failures}
      (read : s.store.get = .ok (some raw))
      (decode : RuleSet.decode (Text.encode raw) = .ok rules)
      (bad : ∃ r ∈ rules, r.IsMalformed) :
      Restore s (.error (.compile (.batch failures))) s
  | installed {raw : String} {rules : RuleSet}
      (read : s.store.get = .ok (some raw))
      (decode : RuleSet.decode (Text.encode raw) = .ok rules)
      (good : ∀ r ∈ rules, ¬ r.IsMalformed) :
      Restore s (.ok (some rules.detectors.length)) (s.install rules.detectors)

theorem restore_restore (s : Shared) : Restore s s.restore.1 s.restore.2.1 := by
  rcases hr : s.store.get with e | _ | raw
  · rw [restore_unread hr]
    exact .unread hr
  · rw [restore_empty hr]
    exact .empty hr
  · cases hd : RuleSet.decode (Text.encode raw) with
    | error cause =>
        rw [restore_undecoded hr hd]
        exact .undecoded hr hd
    | ok rules =>
        rcases rules.compile_cases with ⟨-, good⟩ | ⟨-, bad⟩
        · rw [restore_installed hr hd good]
          exact .installed hr hd good
        · obtain ⟨failures, h⟩ := restore_malformed hr hd bad
          rw [h]
          exact .malformed hr hd bad

section

variable {result : Except RefreshError (Option Nat)}

theorem Restore.source_eq (h : Restore s result s') : s'.source = s.source := by
  cases h <;> rfl

theorem Restore.store_eq (h : Restore s result s') : s'.store = s.store := by
  cases h <;> rfl

theorem Restore.keeps (h : Restore s result s')
    (failed : ∀ n, result ≠ .ok (some n)) :
    s'.snapshot = s.snapshot := by
  cases h with
  | unread => rfl
  | empty => rfl
  | undecoded => rfl
  | malformed => rfl
  | installed => exact absurd rfl (failed _)

end

theorem restore_events (s : Shared) :
    ∀ e ∈ s.restore.2.2, ∃ r, e = Event.skipped r := by
  rcases hr : s.store.get with e | _ | raw
  · simp [restore_unread hr]
  · simp [restore_empty hr]
  · cases hd : RuleSet.decode (Text.encode raw) with
    | error cause => simp [restore_undecoded hr hd]
    | ok rules =>
        have logged : s.restore.2.2 = Event.ofCompiling rules := by
          rcases rules.compile_cases with ⟨-, good⟩ | ⟨-, bad⟩
          · rw [restore_installed hr hd good]
          · obtain ⟨failures, h⟩ := restore_malformed hr hd bad
            rw [h]
        rw [logged]
        exact fun e => Event.skipped_of_mem_ofCompiling

end

/-! ### Starts -/

theorem start_store (s : Shared) (enabled : Bool) :
    (s.start enabled).1.store = s.store := by
  cases enabled with
  | false => rfl
  | true => exact (restore_restore (s.install [])).store_eq

theorem start_source (s : Shared) (enabled : Bool) :
    (s.start enabled).1.source = s.source := by
  cases enabled with
  | false => rfl
  | true => exact (restore_restore (s.install [])).source_eq

/-! ### All or nothing -/

/-- Both calls are all or nothing, and the first gate that stays shut decides
what they end with: for a refresh the source, malformed rules and the write; for
a restore the read, an empty store, the text and malformed rules. -/
theorem gates_in_order (s : Shared) (now : Instant) :
    (∃ result s' events, s.update now = (result, s', events) ∧
      s'.source = s.source.ask.answer.2.1 ∧
      (∀ script, s.source = .script script →
        s'.source.calls = script.calls + 1) ∧
      (∃ rest, events = s.source.ask.answer.2.2 ++ rest ∧
        ∀ e ∈ rest, ∃ r, e = .skipped r) ∧
      (∀ e, s.source.ask.answer.1 = .error e → result = .error (.fetch e)) ∧
      (∀ rules, s.source.ask.answer.1 = .ok rules →
        ((∃ r ∈ rules, r.IsMalformed) →
          ∃ failures, result = .error (.compile (.batch failures))) ∧
        ((∀ r ∈ rules, ¬ r.IsMalformed) →
          (∀ e, s.store.set (RuleSet.encode rules) now = .error e →
            result = .error (.storeWrite e)) ∧
          (∀ store, s.store.set (RuleSet.encode rules) now = .ok store →
            rules.compile = .ok s'.snapshot.detectors ∧
            s'.snapshot.same s.snapshot = false ∧ result =
              .ok s'.snapshot.count ∧
            s'.store = store ∧ store.IsStamped now ∧
            (now.IsTimely → store.content.lastUpdated = .ok now) ∧
            ∃ raw, store.content.get = .ok (some raw) ∧
              RuleSet.decode (Text.encode raw) = .ok rules))) ∧
      (∀ cause, result ≠ .error (.encode cause)) ∧
      ((∀ n, result ≠ .ok n) → s'.snapshot = s.snapshot ∧ s'.store = s.store)) ∧
    (∃ result s' events, s.restore = (result, s', events) ∧
      s'.source = s.source ∧ s'.store = s.store ∧
        (∀ e ∈ events, ∃ r, e = .skipped r) ∧
        (∀ e, s.store.get = .error e → result = .error (.storeRead e)) ∧
        (s.store.get = .ok none → result = .ok none) ∧
        (∀ raw, s.store.get = .ok (some raw) →
          (∀ cause, RuleSet.decode (Text.encode raw) = .error cause →
            result = .error (.decode cause)) ∧
          (∀ rules, RuleSet.decode (Text.encode raw) = .ok rules →
            ((∃ r ∈ rules, r.IsMalformed) →
              ∃ failures, result = .error (.compile (.batch failures))) ∧
            ((∀ r ∈ rules, ¬ r.IsMalformed) →
              rules.compile = .ok s'.snapshot.detectors ∧
              s'.snapshot.same s.snapshot = false ∧
                result = .ok (some s'.snapshot.count)))) ∧
        ((∀ n, result ≠ .ok (some n)) → s'.snapshot = s.snapshot)) := by
  have fresh (s : Shared) (ds : List Detector) :
      (s.install ds).snapshot.same s.snapshot = false := by
    simp [install, Snapshot.same]
  rw [Source.answer_ask]
  constructor
  · have how := refresh_update s now
    obtain ⟨rest, logged, skips⟩ := update_events s now
    refine ⟨(s.update now).1, (s.update now).2.1, (s.update now).2.2, rfl,
      how.source_eq, ?_, ⟨rest, logged, skips⟩, ?_, ?_,
      how.ne_encode, how.keeps⟩
    · intro script h
      rw [how.source_eq, h, Source.calls_answer_ask]
    · intro e ha
      rw [update_unfetched ha]
    · intro rules ha
      refine ⟨fun bad => ?_, fun good => ⟨fun e hw => ?_, fun store hw => ?_⟩⟩
      · obtain ⟨failures, h⟩ := update_malformed now ha bad
        exact ⟨failures, by rw [h]⟩
      · rw [update_unwritten ha good hw]
      · obtain ⟨stored, stamped, -⟩ := Store.set_eq_ok hw
        rw [update_installed ha good hw]
        exact ⟨RuleSet.compile_of_wellFormed good,
          fresh { s.called with store } _, rfl, rfl, stamped,
          Store.lastUpdated_of_isStamped stamped, _, stored,
          RuleSet.decode_written rules⟩
  · have how := restore_restore s
    refine ⟨s.restore.1, s.restore.2.1, s.restore.2.2, rfl, how.source_eq,
      how.store_eq, restore_events s, ?_, ?_, ?_, how.keeps⟩
    · intro e hr
      rw [restore_unread hr]
    · intro hr
      rw [restore_empty hr]
    · intro raw hr
      refine ⟨fun cause hd => ?_, fun rules hd =>
        ⟨fun bad => ?_, fun good => ?_⟩⟩
      · rw [restore_undecoded hr hd]
      · obtain ⟨failures, h⟩ := restore_malformed hr hd bad
        exact ⟨failures, by rw [h]⟩
      · rw [restore_installed hr hd good]
        exact ⟨RuleSet.compile_of_wellFormed good, fresh s _, rfl⟩

/-! ### What a refresh writes -/

theorem storedRules_written (rules : RuleSet) :
    storedRules (RuleSet.encode rules) = .ok rules :=
  storedRules_of_decode (RuleSet.decode_written rules)

/-- A refresh that succeeds has stored the document of the rules that it
fetched. -/
theorem Refresh.written {s s' : Shared} {now : Instant} {n : Nat}
    (h : Refresh s now (.ok n) s') {rules : RuleSet}
    (fetched : s.source.answer.1 = .ok rules) :
    s'.store.content.get = .ok (some (RuleSet.encode rules)) := by
  cases h with
  | installed answer good write =>
      rw [answer] at fetched
      cases fetched
      exact (Store.set_eq_ok write).1

/-- Rules survive the store: whatever their texts hold, the document of a rule
set, which is what a refresh stores, is read back as the same rules in the same
order, and so is that of a single rule. Different rule sets have different
documents. -/
theorem rules_survive_the_store :
    (∀ rules : RuleSet, storedRules (RuleSet.encode rules) = .ok rules) ∧
      (∀ rule : Rule, Rule.decode (Text.encode rule.encode) = .ok rule) ∧
      (∀ (s : Shared) (now : Instant) (rules : RuleSet) (n : Nat),
        s.source.answer.1 = .ok rules → (s.update now).1 = .ok n →
          (s.update now).2.1.store.content.get =
            .ok (some (RuleSet.encode rules))) ∧
      (∀ rules rules' : RuleSet, rules ≠ rules' →
        RuleSet.encode rules ≠ RuleSet.encode rules') ∧
      ∀ rule rule' : Rule, rule ≠ rule' → rule.encode ≠ rule'.encode := by
  refine ⟨storedRules_written, Rule.decode_written,
    fun s now rules n fetched succeeded => ?_,
    fun rules rules' differ same => differ ?_,
    fun rule rule' differ same => differ ?_⟩
  · have how := refresh_update s now
    rw [succeeded] at how
    exact how.written fetched
  · have read := storedRules_written rules
    rw [same, storedRules_written] at read
    exact (Except.ok.inj read).symm
  · have read := Rule.decode_written rule
    rw [same, Rule.decode_written] at read
    exact (Except.ok.inj read).symm

end Shared

end RuleWatch
