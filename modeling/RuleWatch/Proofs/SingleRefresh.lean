import RuleWatch.Proofs.Errands
import RuleWatch.Proofs.Gates

/-!
What single refreshes report and leave. Main statement: a single refresh
succeeds just when the answer to it is a success with a rule set that can be
used, and then this rule set is stored, whatever was stored before; otherwise it
fails and changes nothing.
-/

namespace RuleWatch

/-- Whether the address below a base offers rules that can be used: a success is
answered, its body is this rule set, and no rule of a known kind in it is
malformed. -/
def Network.Offers (net : Network) (base : String) (rules : RuleSet) : Prop :=
  (∃ status body, net.Answers base status body ∧ (200 ≤ status ∧ status < 300) ∧
    RuleSet.decode body = .ok rules) ∧ ∀ r ∈ rules, ¬ r.IsMalformed

theorem Network.Answers.unique {net : Network} {base : String}
    {status status' : Nat} {body body' : List UInt8}
    (h : net.Answers base status body) (h' : net.Answers base status' body') :
    status' = status ∧ body' = body := by
  obtain ⟨url, last, location, address, -, followed⟩ := h
  obtain ⟨url', last', location', address', -, followed'⟩ := h'
  rw [address] at address'
  cases address'
  rw [followed] at followed'
  cases followed'
  exact ⟨rfl, rfl⟩

theorem Network.Offers.congr {net net' : Network} {base base' : String}
    {rules : RuleSet} (h : net.Offers base rules)
    (alike : ∀ status body, net.Answers base status body →
      net'.Answers base' status body) :
    net'.Offers base' rules := by
  obtain ⟨⟨status, body, answered, success, decoded⟩, good⟩ := h
  exact ⟨⟨status, body, alike status body answered, success, decoded⟩, good⟩

def Table.written (t : Table) (raw stamp : String) : Table :=
  (t.put .rules ⟨.text raw, stamp⟩).put .lastUpdated ⟨.text stamp, stamp⟩

namespace Table

variable (t : Table) (raw stamp : String)

theorem find?_written_rules :
    (t.written raw stamp).find? .rules = some ⟨.text raw, stamp⟩ := by
  rw [written, find?_put_of_ne _ _ (by decide), find?_put_self]

theorem find?_written_lastUpdated :
    (t.written raw stamp).find? .lastUpdated = some ⟨.text stamp, stamp⟩ :=
  find?_put_self _ _ _

theorem find?_written_of_ne {p : Place} (rules : p ≠ .rules)
    (lastUpdated : p ≠ .lastUpdated) :
    (t.written raw stamp).find? p = t.find? p := by
  rw [written, find?_put_of_ne _ _ lastUpdated, find?_put_of_ne _ _ rules]

end Table

theorem Database.lastUpdated_of_find? {t : Table} {now : Instant}
    {updatedAt : String}
    (row : t.find? .lastUpdated = some ⟨.text (Timestamp.text now), updatedAt⟩)
    (timely : now.IsTimely) :
    Database.lastUpdated { table := some t } = .ok now := by
  have stamped : Store.IsStamped now (.database { table := some t }) :=
    ⟨t, rfl, by rw [Table.text?, row]⟩
  exact Store.lastUpdated_of_isStamped stamped timely

namespace Shared

variable {s : Shared} {base : String} {net : Network}

/-- A refresh from an address that offers rules stores them, whatever is stored
before. -/
theorem once_of_offers (source : s.source = .api base net) {t : Table}
    (store : s.store = .database { table := some t }) {rules : RuleSet}
    (offered : net.Offers base rules) (now : Instant) :
    (s.once now).1 = .ok "" ∧ (s.once now).2.store =
      .database
        { table :=
          some (t.written (RuleSet.encode rules) (Timestamp.text now)) } := by
  obtain ⟨answered, good⟩ := offered
  have fetched : s.source.answer.1 = .ok rules := by
    rw [source]
    exact Source.fetch_eq_ok_iff.2 answered
  have kept : s.store.set (RuleSet.encode rules) now = .ok
      (.database
        { table :=
          some (t.written (RuleSet.encode rules) (Timestamp.text now)) }) := by
    rw [store]
    rfl
  rw [once, update_installed fetched good kept]
  exact ⟨rfl, rfl⟩

/-- A refresh from an address that offers no rules fails, and leaves the store
as it is. -/
theorem once_of_no_offer (source : s.source = .api base net)
    (none : ∀ rules, ¬ net.Offers base rules) (now : Instant) :
    ∃ e, (s.once now).1 = .error (.refresh e) ∧
      (s.once now).2.store = s.store := by
  have how := refresh_update s now
  unfold once
  rcases updated : s.update now with ⟨result, s', events⟩
  rw [updated] at how
  cases how with
  | unfetched => exact ⟨_, rfl, rfl⟩
  | malformed => exact ⟨_, rfl, rfl⟩
  | unwritten => exact ⟨_, rfl, rfl⟩
  | installed answer good =>
      -- Only what is offered comes as far as this.
      rw [source] at answer
      exact absurd ⟨Source.fetch_eq_ok_iff.1 answer, good⟩ (none _)

end Shared

namespace Surroundings

/-- What a single refresh reports, by what the address below a base offers, and
what it leaves of a table. -/
structure OnceReport (report : Report) (net : Network) (base : String)
    (now : Instant) (l : Location) (t : Table) : Prop where
  succeeds_iff : report.code = 0 ↔ ∃ rules, net.Offers base rules
  answered : ∀ status body, net.Answers base status body →
    (report.code = 0 ↔ (200 ≤ status ∧ status < 300) ∧
      ∃ rules, RuleSet.decode body = .ok rules ∧ ∀ r ∈ rules, ¬ r.IsMalformed)
  healed : ∀ rules, net.Offers base rules → ∃ t' : Table,
    report = { database := fileOf l (.database { table := some t' }) } ∧
      t'.find? .rules =
        some ⟨.text (RuleSet.encode rules), Timestamp.text now⟩ ∧
      t'.find? .lastUpdated =
        some ⟨.text (Timestamp.text now), Timestamp.text now⟩ ∧
      (now.IsTimely → Database.lastUpdated { table := some t' } = .ok now) ∧
      ∀ p, p ≠ .rules → p ≠ .lastUpdated → t'.find? p = t.find? p
  failed : (∀ rules, ¬ net.Offers base rules) → ∃ e : RefreshError,
    report = {
      code := 1
      output := "ERROR Refresh error: " ++ e.message ++ "\n"
      database := fileOf l (.database { table := some t }) }

namespace OnceReport

variable {r r' : Report} {net net' : Network} {base base' : String}
  {now now' : Instant} {l l' : Location} {t t' : Table}

theorem of_no_success (report : OnceReport r net base now l t) (status : Nat)
    (body : List UInt8) (answered : net.Answers base status body)
    (noSuccess : ¬ (200 ≤ status ∧ status < 300)) :
    r.code = 1 ∧ r.database = fileOf l (.database { table := some t }) := by
  have none : ∀ rules, ¬ net.Offers base rules := fun rules offered =>
    noSuccess ((report.answered status body answered).1
      (report.succeeds_iff.2 ⟨rules, offered⟩)).1
  obtain ⟨e, failed⟩ := report.failed none
  rw [failed]
  exact ⟨rfl, rfl⟩

theorem congr (report : OnceReport r net base now l t)
    (report' : OnceReport r' net' base' now' l' t')
    (alike : ∀ status body, net'.Answers base' status body ↔
      net.Answers base status body) :
    r'.code = r.code ∧ ∃ u u' : Table,
      r.database = fileOf l (.database { table := some u }) ∧
      r'.database = fileOf l' (.database { table := some u' }) ∧
      (r.code = 0 → u'.text? .rules = u.text? .rules) ∧
        (r.code ≠ 0 → u = t ∧ u' = t') := by
  by_cases offer : ∃ rules, net.Offers base rules
  · obtain ⟨rules, offered⟩ := offer
    have offered' := offered.congr fun status body => (alike status body).2
    obtain ⟨u, shown, rows, -⟩ := report.healed rules offered
    obtain ⟨u', shown', rows', -⟩ := report'.healed rules offered'
    rw [shown, shown']
    refine ⟨rfl, u, u', rfl, rfl, fun _ => ?_, fun failed => absurd rfl failed⟩
    rw [Table.text?, Table.text?, rows, rows']
  · have none := not_exists.1 offer
    have none' : ∀ rules, ¬ net'.Offers base' rules := fun rules offered' =>
      none rules (offered'.congr fun status body => (alike status body).1)
    obtain ⟨e, failed⟩ := report.failed none
    obtain ⟨e', failed'⟩ := report'.failed none'
    rw [failed, failed']
    exact ⟨rfl, t, t', rfl, rfl, fun done => absurd done Nat.one_ne_zero,
      fun _ => ⟨rfl, rfl⟩⟩

end OnceReport

section

variable {w : Surroundings} {args : List String} {s : Settings}
  {l : Location} {t : Table}

theorem run_once {db : Database} (h : w.Finds args .once s l db) :
    w.run args =
      { Report.ofAnswer ((w.provider s db).once w.now).1 with
        database := fileOf l ((w.provider s db).once w.now).2.store } := by
  rw [run_of_finds h, carryOut, carryOut_report]

theorem onceReport_run (h : w.Finds args .once s l { table := some t }) :
    OnceReport (w.run args) w.network s.rulesBaseUrl w.now l t := by
  have source : (w.provider s { table := some t }).source =
      .api s.rulesBaseUrl w.network :=
    Shared.start_source _ _
  have store : (w.provider s { table := some t }).store =
      .database { table := some t } :=
    Shared.start_store _ _
  have healed : ∀ rules, w.network.Offers s.rulesBaseUrl rules → w.run args =
      { database := fileOf l <| .database
          { table :=
            some (t.written (RuleSet.encode rules)
              (Timestamp.text w.now)) } } := by
    intro rules offered
    obtain ⟨result, kept⟩ := Shared.once_of_offers source store offered w.now
    rw [run_once h, result, kept]
    rfl
  have failed : (∀ rules, ¬ w.network.Offers s.rulesBaseUrl rules) →
      ∃ e : RefreshError, w.run args = {
        code := 1
        output := "ERROR Refresh error: " ++ e.message ++ "\n"
        database := fileOf l (.database { table := some t }) } := by
    intro none
    obtain ⟨e, result, kept⟩ := Shared.once_of_no_offer source none w.now
    refine ⟨e, ?_⟩
    rw [run_once h, result, kept, store, Report.ofAnswer,
      Report.ofError_refresh]
  have succeeds : (w.run args).code = 0 ↔
      ∃ rules, w.network.Offers s.rulesBaseUrl rules := by
    constructor
    · intro success
      by_contra none
      obtain ⟨e, report⟩ := failed (not_exists.1 none)
      rw [report] at success
      cases success
    · rintro ⟨rules, offered⟩
      rw [healed rules offered]
  refine ⟨succeeds, fun status body answered => ?_,
    fun rules offered => ?_, failed⟩
  · rw [succeeds]
    constructor
    · rintro ⟨rules, ⟨status', body', answered', success, decoded⟩, good⟩
      obtain ⟨rfl, rfl⟩ := answered.unique answered'
      exact ⟨success, rules, decoded, good⟩
    · rintro ⟨success, rules, decoded, good⟩
      exact ⟨rules, ⟨status, body, answered, success, decoded⟩, good⟩
  · have stamped :=
      t.find?_written_lastUpdated (RuleSet.encode rules) (Timestamp.text w.now)
    exact ⟨_, healed rules offered, t.find?_written_rules _ _, stamped,
      Database.lastUpdated_of_find? stamped, fun p => t.find?_written_of_ne _ _⟩

/-- A single refresh heals any store and reports truthfully: it succeeds just
when the answer from the base address is a success with a usable rule set. Then
this rule set is stored with the time of the write, and otherwise nothing is
changed. Neither the stored rows nor the settings beside the base address have a
part in it. -/
theorem once_heals_and_reports (h :
    w.Finds args .once s l { table := some t }) :
    OnceReport (w.run args) w.network s.rulesBaseUrl w.now l t ∧
      (∀ status body, w.network.Answers s.rulesBaseUrl status body →
        ¬ (200 ≤ status ∧ status < 300) →
          (w.run args).code = 1 ∧
          (w.run args).database = fileOf l (.database { table := some t })) ∧
      ∀ (w' : Surroundings) args' s' l' t',
        w'.Finds args' .once s' l' { table := some t' } →
        (∀ status body, w'.network.Answers s'.rulesBaseUrl status body ↔
          w.network.Answers s.rulesBaseUrl status body) →
        (w'.run args').code = (w.run args).code ∧
          ∃ u u' : Table,
            (w.run args).database = fileOf l (.database { table := some u }) ∧
            (w'.run args').database =
              fileOf l' (.database { table := some u' }) ∧
            ((w.run args).code = 0 → u'.text? .rules = u.text? .rules) ∧
            ((w.run args).code ≠ 0 → u = t ∧ u' = t') := by
  have report := onceReport_run h
  exact ⟨report, report.of_no_success, fun w' args' s' l' t' h' alike =>
    report.congr (onceReport_run h') alike⟩

end

def onceFolder (t : Table) (flags : String) (status : Nat) : Surroundings :=
  folder t [("RULES_BASE_URL", "http://[::1]"), ("FEATURE_TOGGLES", flags)]
    (.always ⟨status, none, .ok (Text.encode (RuleSet.encode oneRule))⟩)

theorem onceFolder_finds (t : Table) (flags : String) (status : Nat) :
    (onceFolder t flags status).Finds ["--once"] .once
      { folderSettings flags with rulesBaseUrl := "http://[::1]" }
      { file := "detectors.db", inMemory := false } { table := some t } :=
  folder_finds (o := { once := true }) rfl rfl rfl

theorem onceFolder_answers (t : Table) (flags : String) (status : Nat) :
    (onceFolder t flags status).network.Answers "http://[::1]" status
      (Text.encode (RuleSet.encode oneRule)) := by
  obtain ⟨url, address, web⟩ := Network.rulesUrl_loopback
  exact Network.answers_always address web _ _

/-- A store of no rules is healed by a success, with and without the flag, and a
failure leaves it. -/
theorem broken_store_is_healed :
    (∃ t' : Table, (onceFolder brokenTable detectionFlag 200).run ["--once"] =
        { database := fileOf ⟨"detectors.db", false, false, false, none⟩
            (.database { table := some t' }) } ∧
      t'.text? .rules = .ok (some (RuleSet.encode oneRule))) ∧
      ((onceFolder [] "" 200).run ["--once"]).code = 0 ∧
      ((onceFolder brokenTable detectionFlag 500).run ["--once"]).code = 1 := by
  have good : ∀ r ∈ oneRule, ¬ r.IsMalformed := fun r member => by
    obtain rfl := List.mem_singleton.1 member
    exact Rule.wellFormed_of_compile (d := .contains (Text.encode "x")) rfl
  have answered := onceFolder_answers brokenTable detectionFlag 200
  obtain ⟨report, -, alike⟩ := once_heals_and_reports
    (onceFolder_finds brokenTable detectionFlag 200)
  obtain ⟨-, refused, -⟩ := once_heals_and_reports
    (onceFolder_finds brokenTable detectionFlag 500)
  have success := (report.answered 200 _ answered).2
    ⟨by decide, oneRule, RuleSet.decode_written _, good⟩
  obtain ⟨t', shown, rows, -⟩ := report.healed oneRule
    ⟨⟨200, _, answered, by decide, RuleSet.decode_written _⟩, good⟩
  obtain ⟨same, -⟩ :=
    alike _ _ _ _ _ (onceFolder_finds [] "" 200) fun _ _ => Iff.rfl
  refine ⟨⟨t', shown, by rw [Table.text?, rows]⟩, same.trans success, ?_⟩
  exact (refused 500 _ (onceFolder_answers brokenTable detectionFlag 500)
    (by decide)).1

end Surroundings

end RuleWatch
