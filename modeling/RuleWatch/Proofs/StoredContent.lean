import RuleWatch.Proofs.Timestamps
import RuleWatch.Store.Basic

/-!
What a store keeps, apart from what can be done with it now. Switches decide
which operations fail and nothing else: a read answers with the content or
fails, and a write puts a new text and its time in place of the old ones or
fails and changes nothing.
-/

namespace RuleWatch

/-- Everything that makes operations of a store fail. A store in memory looks at
the first three, and a database at the others. -/
structure Switches where
  failsReads : Bool := false
  failsWrites : Bool := false
  failsUpdated : Bool := false
  isClosed : Bool := false
  triggers : List Trigger := []
  readFault : Option DatabaseError := none
  stepFaults : List (Table.Step × DatabaseError) := []

/-! ### Tables -/

namespace Table

theorem find?_put_self (t : Table) (p : Place) (e : Entry) :
    (t.put p e).find? p = some e := by
  simp [find?, put]

theorem find?_put_of_ne (t : Table) {p q : Place} (e : Entry) (h : q ≠ p) :
    (t.put p e).find? q = t.find? q := by
  have hf : List.lookup q (t.filter (·.1 ≠ p)) = List.lookup q t := by
    induction t with
    | nil => rfl
    | cons row t ih =>
        obtain ⟨k, e'⟩ := row
        by_cases hk : k = p
        · subst hk
          have : (q == k) = false := by simpa using h
          simpa [List.lookup_cons, this] using ih
        · rw [List.filter_cons_of_pos (by simpa using hk), List.lookup_cons,
            List.lookup_cons, ih]
  have : (q == p) = false := by simpa using h
  rw [find?, put, List.lookup_cons, this, hf]
  rfl

/-- A write succeeds when no step of it fails, and then both entries are
there. -/
theorem write_eq_ok_iff {t t' : Table} {faultAt : Step → Option DatabaseError}
    {raw stamp : String} :
    t.write faultAt raw stamp = .ok t' ↔
      (∀ step, faultAt step = none) ∧
        t' = (t.put .rules ⟨.text raw, stamp⟩).put .lastUpdated
          ⟨.text stamp, stamp⟩ := by
  constructor
  · intro h
    simp only [write, pass, bind, Except.bind, pure, Except.pure] at h
    cases hs : faultAt .start <;> simp only [hs, reduceCtorEq] at h
    cases hr : faultAt .rules <;> simp only [hr, reduceCtorEq] at h
    cases ht : faultAt .stamp <;> simp only [ht, reduceCtorEq] at h
    cases hf : faultAt .finish <;>
      simp only [hf, reduceCtorEq, Except.ok.injEq] at h
    refine ⟨fun step => ?_, h.symm⟩
    cases step <;> assumption
  · rintro ⟨h, rfl⟩
    simp [write, pass, bind, Except.bind, pure, Except.pure, h]

end Table

namespace Store

def switches : Store → Switches
  | memory s =>
      { failsReads := s.failsReads, failsWrites := s.failsWrites,
        failsUpdated := s.failsUpdated }
  | database db =>
      { isClosed := db.isClosed, triggers := db.triggers,
        readFault := db.readFault,
        stepFaults := db.stepFaults }

def under (x : Switches) : Store → Store
  | memory s => memory { s with
      failsReads := x.failsReads, failsWrites := x.failsWrites,
      failsUpdated := x.failsUpdated }
  | database db => database { db with
      isClosed := x.isClosed, triggers := x.triggers, readFault := x.readFault,
      stepFaults := x.stepFaults }

/-- What a store keeps: the store with everything working. -/
def content (s : Store) : Store := s.under {}

@[simp] theorem under_switches (s : Store) :
    s.under s.switches = s := by cases s <;> rfl

@[simp] theorem under_under (s : Store) (x y : Switches) :
    (s.under x).under y = s.under y := by
  cases s <;> rfl

@[simp] theorem content_under (s : Store) (x : Switches) :
    (s.under x).content = s.content :=
  under_under s x {}

/-- Stores with the same content differ in their switches only. -/
theorem under_eq_of_content_eq {s t : Store}
    (h : s.content = t.content) (x : Switches) :
    s.under x = t.under x := by
  rw [← under_under s {} x, ← under_under t {} x]
  exact congrArg (under x) h

/-! ### Reading -/

def isReadable : Store → Bool
  | memory s => !s.failsReads
  | database db => !db.isClosed && db.readFault.isNone

theorem get_eq_of_isReadable {s : Store} (h : s.isReadable = true) :
    s.get = s.content.get := by
  cases s with
  | memory s => simp_all [isReadable, content, under, get, MemoryStore.get]
  | database db =>
      simp only [isReadable, Bool.and_eq_true, Bool.not_eq_true',
        Option.isNone_iff_eq_none] at h
      simp [content, under, get, Database.get, Database.reach, h.1, h.2]

theorem isReadable_of_get {s : Store} {value : Option String}
    (h : s.get = .ok value) :
    s.isReadable = true := by
  cases s with
  | memory s =>
      cases hr : s.failsReads <;> simp_all [isReadable, get, MemoryStore.get]
  | database db =>
      simp only [get, Database.get, Database.reach] at h
      cases hc : db.isClosed with
      | true =>
          rw [hc] at h
          cases h
      | false =>
          rw [hc] at h
          cases hr : db.readFault with
          | some e =>
              rw [hr] at h
              cases h
          | none => simp [isReadable, hc, hr]

theorem content_get_of_get {s : Store} {value : Option String}
    (h : s.get = .ok value) :
    s.content.get = .ok value := by
  rw [← get_eq_of_isReadable (isReadable_of_get h), h]

/-! ### Writing -/

/-- Whether a store keeps an instant as the time of its last update, a database
by its timestamp. -/
def IsStamped (now : Instant) : Store → Prop
  | memory s => s.updated = now
  | database db => ∃ t, db.table = some t ∧
      t.text? .lastUpdated = .ok (some (Timestamp.text now))

/-- The time that a store keeps is the one that it tells, if a timestamp can
stand for it. -/
theorem lastUpdated_of_isStamped {s : Store} {now : Instant}
    (h : s.IsStamped now) (timely : now.IsTimely) :
    s.content.lastUpdated = .ok now := by
  cases s with
  | memory s => exact congrArg Except.ok h
  | database db =>
      obtain ⟨t, table, stamp⟩ := h
      obtain ⟨isClosed, table', triggers, readFault, stepFaults⟩ := db
      obtain rfl : table' = some t := table
      simp only [content, under, lastUpdated, Database.lastUpdated,
        Database.reach, Except.bind, Bool.false_eq_true, if_false, stamp,
        Timestamp.read_text timely]
      rfl

theorem database_set_eq_ok {db db' : Database} {raw : String} {now : Instant}
    (h : db.set raw now = .ok db') :
    ∃ t t' : Table, db.table = some t ∧ db' = { db with table := some t' } ∧
      t' = (t.put .rules ⟨.text raw, Timestamp.text now⟩).put .lastUpdated
        ⟨.text (Timestamp.text now), Timestamp.text now⟩ := by
  unfold Database.set at h
  split at h
  · rename_i t' hw
    obtain ⟨hf, ht⟩ := Table.write_eq_ok_iff.1 hw
    cases hd : db.table with
    | none =>
        have := hf .rules
        simp [Database.faultAt, Database.refusalAt, hd] at this
    | some t =>
        rw [hd, Option.getD_some] at ht
        cases h
        exact ⟨t, t', rfl, rfl, ht⟩
  · cases h

/-- A write that succeeds leaves its text and its time, and the switches as they
were. -/
theorem set_eq_ok {s s' : Store} {raw : String} {now : Instant}
    (h : s.set raw now = .ok s') :
    s'.content.get = .ok (some raw) ∧ s'.IsStamped now ∧
      s'.switches = s.switches := by
  cases s with
  | memory s =>
      simp only [set, MemoryStore.set] at h
      split at h
      · cases h
      · cases h
        exact ⟨rfl, rfl, rfl⟩
  | database db =>
      simp only [set] at h
      cases hd : db.set raw now with
      | error e => simp [hd, Except.map] at h
      | ok db' =>
          rw [hd] at h
          cases h
          obtain ⟨t, t', -, rfl, rfl⟩ := database_set_eq_ok hd
          have hr : Place.rules ≠ Place.lastUpdated := by decide
          have rules :
              Table.text?
                ((t.put .rules ⟨.text raw, Timestamp.text now⟩).put .lastUpdated
                ⟨.text (Timestamp.text now), Timestamp.text now⟩) .rules =
                .ok (some raw) := by
            rw [Table.text?, Table.find?_put_of_ne _ _ hr, Table.find?_put_self]
          refine ⟨?_, ⟨_, rfl, ?_⟩, rfl⟩
          · exact congrArg (Except.mapError StoreError.database) rules
          · rw [Table.text?, Table.find?_put_self]

end Store

end RuleWatch
