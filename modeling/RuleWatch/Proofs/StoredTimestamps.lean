import RuleWatch.Proofs.Register
import RuleWatch.Proofs.Timestamps

/-!
Stored timestamps. Whatever text is stored as the time of the last update, the
store tells the instant that it denotes, or shows the text where it denotes
none. Every instant has a text in every zone that tells it, with as many digits
of a second as are asked for, if they are enough.
-/

namespace RuleWatch

namespace Store

open Timestamp

/-! ### The time of the last update -/

section

variable {db db' : Database} {table : Table} {s stamp : String}

theorem lastUpdated_of_row (reached : db.reach = .ok table)
    (row : table.find? .lastUpdated = some ⟨.text s, stamp⟩) :
    db.lastUpdated = (Timestamp.read s).mapError (.timestamp s) := by
  have text : table.text? .lastUpdated = .ok (some s) := by
    rw [Table.text?, row]
  simp only [Database.lastUpdated, reached, Except.bind, text]

theorem perform_of_denotes (reached : db.reach = .ok table) {f : Form}
    (row : table.find? .lastUpdated = some ⟨.text f.text, stamp⟩)
    (sound : f.IsSound) {t : Instant} (denotes : f.Denotes t) :
    (database db).perform .lastUpdated = (.time (.ok t), .database db) := by
  have read := read_eq_ok_iff.2 ⟨f, sound, rfl, denotes⟩
  simp only [perform, lastUpdated, lastUpdated_of_row reached row,
    read, Except.mapError]

theorem perform_of_formless (reached : db.reach = .ok table)
    (row : table.find? .lastUpdated = some ⟨.text s, stamp⟩)
    (formless : ∀ f : Form, f.IsSound → f.text ≠ s) :
    ∃ cause, (database db).perform .lastUpdated =
      (.time (.error (.timestamp s cause)), .database db) := by
  cases read : Timestamp.read s with
  | ok t =>
      obtain ⟨f, sound, text, -⟩ := read_eq_ok_iff.1 read
      exact absurd text (formless f sound)
  | error cause =>
      refine ⟨cause, ?_⟩
      simp only [perform, lastUpdated, lastUpdated_of_row reached row,
        read, Except.mapError]

theorem table_of_reach (reached : db.reach = .ok table) :
    db.table = some table := by
  unfold Database.reach at reached
  split at reached
  · cases reached
  · split at reached
    · cases reached
    · next there =>
        cases reached
        exact there
    · cases reached

theorem perform_set {raw : String} {now : Instant}
    (written : db.set raw now = .ok db') (timely : now.IsTimely)
    (reached : db'.reach = .ok table) :
    (database db').perform .lastUpdated = (.time (.ok now), .database db') := by
  obtain ⟨t, _, -, rfl, rfl⟩ := database_set_eq_ok written
  cases table_of_reach reached
  have row :=
    Table.find?_put_self (t.put .rules ⟨.text raw, Timestamp.text now⟩)
      .lastUpdated ⟨.text (Timestamp.text now), Timestamp.text now⟩
  simp only [perform, lastUpdated, lastUpdated_of_row reached row,
    read_text timely, Except.mapError]

end

/-- Whatever text is stored, the store tells the instant that it denotes, or
shows the text if it is not the text of a timestamp, and keeps what is stored.
In every zone in which an instant has a day of the years 0 to 9999 there is a
text that denotes it, with any number of digits of a second up to nine that
leaves out zeros only, and what a write stores denotes the instant of the
write. -/
theorem timestamps_are_told_as_denoted :
    (∀ (db : Database) (table : Table) (s stamp : String),
      db.reach = .ok table → table.find? .lastUpdated = some ⟨.text s, stamp⟩ →
        (∀ (f : Form) (t : Instant), f.IsSound → f.text = s → f.Denotes t →
          (database db).perform .lastUpdated = (.time (.ok t), .database db)) ∧
        ((∀ f : Form, f.IsSound → f.text ≠ s) → ∃ cause,
          (database db).perform .lastUpdated =
            (.time (.error (.timestamp s cause)), .database db))) ∧
    (∀ (t : Instant) (zone : Zone) (d : Date) (k : Nat),
      (t.nanos < 1000000000 ∨ t.nanos < 2000000000 ∧ t.seconds % 60 = 59) →
        zone.IsSound →
        d.Counted ((t.seconds + zone.minutes * 60) / 86400) →
          0 ≤ d.year ∧ d.year ≤ 9999 →
          k ≤ 9 → 10 ^ (9 - k) ∣ t.nanos % 1000000000 →
            ∃ f : Form, f.IsSound ∧ f.separator = 'T' ∧ f.zone = zone ∧
              f.digits.length = k ∧
              f.Denotes t) ∧
    (∀ (db db' : Database) (raw : String) (now : Instant) (table : Table),
      db.set raw now = .ok db' → now.IsTimely → db'.reach = .ok table →
        (database db').perform .lastUpdated =
          (.time (.ok now), .database db')) := by
  refine ⟨fun db table s stamp reached row =>
    ⟨?_, perform_of_formless reached row⟩, ?_,
    fun db db' raw now table written timely reached =>
      perform_set written timely reached⟩
  · rintro f t sound rfl denotes
    exact perform_of_denotes reached row sound denotes
  · intro t zone d k leap sound counted year le zeros
    obtain ⟨valid, number⟩ := Date.counted_iff.1 counted
    rw [← Date.ofNumber_number valid, number] at year
    exact ⟨.shown t zone k, Form.isSound_shown leap year sound, rfl, rfl,
      length_leading le _, Form.denotes_shown leap le zeros⟩

/-- The leap second at the end of 2016 as clocks five and a half hours ahead
show it is told, a date alone is not the text of a timestamp, the same leap
second has a text without digits of a second in another zone, and what is
written in it is told too. -/
theorem leap_second_is_told :
    let stamped (s : String) : Database :=
      { table := some [(.lastUpdated, ⟨.text s, s⟩)] }
    let leap : Instant := ⟨1483228799, 1000000000⟩
    (database (stamped "2017-01-01T05:29:60.00+05:30")).perform .lastUpdated =
      (.time (.ok leap), .database (stamped "2017-01-01T05:29:60.00+05:30")) ∧
    (∃ cause, (database (stamped "2017-01-01")).perform .lastUpdated =
      (.time (.error (.timestamp "2017-01-01" cause)),
        .database (stamped "2017-01-01"))) ∧
    (∃ f : Form, f.IsSound ∧ f.separator = 'T' ∧ f.zone = .signed '-' 23 59 ∧
      f.digits.length = 0 ∧
      f.Denotes leap) ∧
    (∃ db' : Database, (stamped "").set "[]" leap = .ok db' ∧
      (database db').perform .lastUpdated =
        (.time (.ok leap), .database db')) := by
  intro stamped leap
  obtain ⟨told, spelled, written⟩ := timestamps_are_told_as_denoted
  refine ⟨?_, ?_, ?_, ?_⟩
  · let f : Form := ⟨⟨2017, 1, 1⟩, 'T', 5, 29, 60, [0, 0], .signed '+' 5 30⟩
    have sound : f.IsSound := ⟨by decide, by decide, by decide, by decide,
      by decide, by decide, by decide, by decide⟩
    exact (told _ _ _ _ rfl rfl).1 f leap sound (by decide)
      ⟨17167, Date.counted_iff.2 (by decide), by decide, by decide⟩
  · refine (told _ _ _ _ rfl rfl).2 fun f sound text => ?_
    have short := length_encode_text sound
    rw [text] at short
    exact absurd short (by decide)
  · exact spelled leap (.signed '-' 23 59) ⟨2016, 12, 31⟩ 0 (by decide)
      ⟨by decide, by decide, by decide⟩ (Date.counted_iff.2 (by decide))
      (by decide) (by decide) (by decide)
  · exact ⟨_, rfl, written (stamped "") _ "[]" leap _ rfl
      ⟨by decide, by decide, by decide⟩ rfl⟩

end Store

end RuleWatch
