import RuleWatch.Proofs.StoredContent

/-!
A store is a register. It holds the text of the last write that succeeded and
the instant of it, and a write that fails, in a database at any of its steps,
leaves no trace. Main statement: a store in memory and one in a database cannot
be told apart by what they answer, and a database keeps both of its rows
together and all others as they were.
-/

namespace RuleWatch

/-- Switches that make a write fail: in memory as a whole, in a database at one
of its steps. -/
def Switches.ofFault (fault : Option (Table.Step × DatabaseError)) : Switches :=
  { failsWrites := fault.isSome, stepFaults := fault.toList }

namespace Store

/-- What is done with a store. A write may be made to fail. -/
inductive Operation
  | get
  | set (raw : String) (now : Instant)
      (fault : Option (Table.Step × DatabaseError))
  | lastUpdated

/-- What a store answers. Of a failed write only the failure counts: its text is
the store's own. -/
inductive Response
  | value (read : Except StoreError (Option String))
  | written (isDone : Bool)
  | time (told : Except StoreError Instant)

/-- Carries out an operation. The fault of a write is gone behind it. -/
def perform (s : Store) : Operation → Response × Store
  | .get => (.value s.get, s)
  | .lastUpdated => (.time s.lastUpdated, s)
  | .set raw now fault =>
      match (s.under (.ofFault fault)).set raw now with
      | .ok s' => (.written true, s'.under s.switches)
      | .error _ => (.written false, s)

def serve (s : Store) : List Operation → List Response × Store
  | [] => ([], s)
  | op :: ops =>
      let (r, s) := s.perform op
      let (rs, s) := s.serve ops
      (r :: rs, s)

@[simp] theorem length_serve (s : Store) (ops : List Operation) :
    (s.serve ops).1.length = ops.length := by
  induction ops generalizing s with
  | nil => rfl
  | cons op ops ih => exact congrArg (· + 1) (ih _)

namespace Operation

def written? : Operation → Option (String × Instant)
  | set raw now none => some (raw, now)
  | _ => none

def lastWritten? (ops : List Operation) : Option (String × Instant) :=
  (ops.filterMap written?).getLast?

/-- What a register answers that holds the text of a write. -/
def expected (held : Option (String × Instant)) : Operation → Response
  | get => .value (.ok (held.map (·.1)))
  | set _ _ fault => .written fault.isNone
  | lastUpdated => .time (.ok ((held.map (·.2)).getD .epoch))

def IsTimely : Operation → Prop
  | set _ now _ => now.IsTimely
  | _ => True

theorem lastWritten?_cons (op : Operation) (ops : List Operation)
    (held : Option (String × Instant)) :
    (lastWritten? (op :: ops)).or held =
      (lastWritten? ops).or (op.written?.or held) := by
  cases hw : op.written? with
  | none => simp [lastWritten?, hw]
  | some w =>
      rw [lastWritten?, List.filterMap_cons_some hw,
        List.getLast?_cons, lastWritten?]
      cases (ops.filterMap written?).getLast? <;> rfl

end Operation

/-! ### Answers -/

def IsThere : Store → Prop
  | memory _ => True
  | database db => db.table.isSome = true

/-- A store at work that holds the text of a write, or nothing. -/
structure Keeps (s : Store) (held : Option (String × Instant)) : Prop where
  switches : s.switches = {}
  isThere : s.IsThere
  get : s.get = .ok (held.map (·.1))
  lastUpdated : s.lastUpdated = .ok ((held.map (·.2)).getD .epoch)

section

variable {s s' : Store} {raw : String} {now : Instant}
  {held : Option (String × Instant)}
  {fault : Option (Table.Step × DatabaseError)} {ops : List Operation}

theorem switches_content (s : Store) :
    s.content.switches = {} := by cases s <;> rfl

theorem database_set_isOk_iff {db : Database} (there : db.table.isSome = true) :
    (∃ db', db.set raw now = .ok db') ↔ ∀ step, db.faultAt step = none := by
  obtain ⟨t, ht⟩ := Option.isSome_iff_exists.1 there
  unfold Database.set
  rw [ht, Option.getD_some]
  constructor
  · rintro ⟨db', done⟩
    cases hw : t.write db.faultAt raw (Timestamp.text now) with
    | ok t' => exact (Table.write_eq_ok_iff.1 hw).1
    | error e =>
        rw [hw] at done
        cases done
  · intro free
    rw [Table.write_eq_ok_iff.2 ⟨free, rfl⟩]
    exact ⟨_, rfl⟩

theorem set_isOk_iff (quiet : s.switches = {}) (there : s.IsThere) :
    (∃ s', (s.under (.ofFault fault)).set raw now = .ok s') ↔ fault = none := by
  cases s with
  | memory m =>
      cases fault <;>
        simp [under, Switches.ofFault, set, MemoryStore.set, Except.map]
  | database db =>
      obtain ⟨isClosed, table, triggers, readFault, stepFaults⟩ := db
      cases quiet
      let faulty : Database := { table, stepFaults := fault.toList }
      have steps : (∀ step, faulty.faultAt step = none) ↔ fault = none := by
        obtain ⟨t, rfl⟩ := Option.isSome_iff_exists.1 there
        constructor
        · intro free
          rcases fault with _ | ⟨step, e⟩
          · rfl
          · have := free step
            cases step <;> simp [faulty, Database.faultAt, Database.refusalAt,
              Database.stop?] at this
        · rintro rfl step
          cases step <;> rfl
      have there : faulty.table.isSome = true := there
      have isOk : (∃ db, faulty.set raw now = .ok db) ↔ _ :=
        database_set_isOk_iff there
      rw [← steps, ← isOk]
      change (∃ s', (faulty.set raw now).map Store.database = .ok s') ↔ _
      cases faulty.set raw now <;> simp [Except.map]

/-- Every operation is answered as a register answers it, and leaves what a
register would hold. -/
theorem Keeps.perform (h : s.Keeps held) {op : Operation}
    (timely : op.IsTimely) :
    (s.perform op).1 = op.expected held ∧
      (s.perform op).2.Keeps (op.written?.or held) := by
  cases op with
  | get => exact ⟨congrArg Response.value h.get, h⟩
  | lastUpdated => exact ⟨congrArg Response.time h.lastUpdated, h⟩
  | set raw now fault =>
      have isOk : (∃ s', (s.under (.ofFault fault)).set raw now = .ok s') ↔ _ :=
        set_isOk_iff h.switches h.isThere
      cases hs : (s.under (.ofFault fault)).set raw now with
      | ok s' =>
          obtain rfl := isOk.1 ⟨s', hs⟩
          have left : s.perform (.set raw now none) =
              (.written true, s'.content) := by
            simp only [Store.perform, hs, h.switches, content]
          obtain ⟨stored, stamped, -⟩ := set_eq_ok hs
          rw [left]
          refine ⟨rfl, switches_content s', ?_, stored,
            lastUpdated_of_isStamped stamped timely⟩
          cases s' with
          | memory m => trivial
          | database db =>
              obtain ⟨t, table, -⟩ := stamped
              exact Option.isSome_iff_exists.2 ⟨t, table⟩
      | error e =>
          obtain ⟨f, rfl⟩ : ∃ f, fault = some f := by
            refine Option.ne_none_iff_exists'.1 fun none => ?_
            obtain ⟨s', done⟩ := isOk.2 none
            rw [hs] at done
            cases done
          have left : s.perform (.set raw now (some f)) =
              (.written false, s) := by
            simp only [Store.perform, hs]
          rw [left]
          exact ⟨rfl, h⟩

/-- Each operation of a sequence is answered by the last write before it. -/
theorem Keeps.serve (h : s.Keeps held) (timely : ∀ op ∈ ops, op.IsTimely)
    {k : Nat} {op : Operation} (there : ops[k]? = some op) :
    (s.serve ops).1[k]? =
      some (op.expected ((Operation.lastWritten? (ops.take k)).or held)) := by
  induction ops generalizing s held k with
  | nil => cases there
  | cons first ops ih =>
      obtain ⟨answer, next⟩ := h.perform (timely first List.mem_cons_self)
      cases k with
      | zero =>
          cases there
          exact congrArg some answer
      | succ k =>
          rw [List.take_succ_cons, Operation.lastWritten?_cons]
          exact ih
            next (fun op hm => timely op (List.mem_cons_of_mem first hm)) there

end

/-! ### Rows -/

end Store

/-- The two rows of a register among the rows that a table had at first: both
are missing, or both are there with the time of their writing in all three
places, and all other rows are the old ones. -/
structure Table.Paired (first t : Table) : Prop where
  together : (t.find? .rules = none ∧ t.find? .lastUpdated = none) ∨
    ∃ raw stamp, t.find? .rules = some ⟨.text raw, stamp⟩ ∧
      t.find? .lastUpdated = some ⟨.text stamp, stamp⟩
  others : ∀ p, p ≠ .rules → p ≠ .lastUpdated → t.find? p = first.find? p
  distinct : (t.map (·.1)).Nodup

namespace Table

variable {first t : Table}

theorem nodup_put (h : (t.map (·.1)).Nodup) (p : Place) (e : Entry) :
    ((t.put p e).map (·.1)).Nodup := by
  have fresh : p ∉ (t.filter (·.1 ≠ p)).map (·.1) := by
    simp only [List.mem_map, List.mem_filter, decide_eq_true_eq,
      not_exists, not_and]
    exact fun row kept => kept.2
  exact List.nodup_cons.2 ⟨fresh, h.sublist (List.filter_sublist.map _)⟩

theorem Paired.put (h : first.Paired t) (raw stamp : String) :
    first.Paired
      ((t.put .rules ⟨.text raw, stamp⟩).put .lastUpdated
        ⟨.text stamp, stamp⟩) where
  together := by
    refine .inr ⟨raw, stamp, ?_, find?_put_self _ _ _⟩
    rw [find?_put_of_ne _ _ (by decide), find?_put_self]
  others := by
    intro p rules stamp
    rw [find?_put_of_ne _ _ stamp, find?_put_of_ne _ _ rules]
    exact h.others p rules stamp
  distinct := nodup_put (nodup_put h.distinct _ _) _ _

end Table

namespace Store

variable {first : Table} {ops : List Operation}

theorem perform_database {t : Table} (h : first.Paired t) (op : Operation) :
    ∃ t', ((database { table := some t }).perform op).2 =
      .database { table := some t' } ∧
      first.Paired t' := by
  cases op with
  | get => exact ⟨t, rfl, h⟩
  | lastUpdated => exact ⟨t, rfl, h⟩
  | set raw now fault =>
      let faulty : Database := { table := some t, stepFaults := fault.toList }
      cases hd : faulty.set raw now with
      | error e =>
          have failed :
              ((database { table := some t }).under (.ofFault fault)).set raw
                now =
              .error e := congrArg (Except.map database) hd
          exact ⟨t, by simp only [perform, failed], h⟩
      | ok db =>
          have done :
              ((database { table := some t }).under (.ofFault fault)).set raw
                now =
              .ok (.database db) := congrArg (Except.map database) hd
          obtain ⟨old, new, table, rfl, rfl⟩ := database_set_eq_ok hd
          cases table
          exact ⟨_, by simp only [perform, done]; rfl,
            h.put raw (Timestamp.text now)⟩

theorem serve_database {t : Table} (h : first.Paired t) (ops : List Operation) :
    ∃ t', ((database { table := some t }).serve ops).2 =
      .database { table := some t' } ∧
      first.Paired t' := by
  induction ops generalizing t with
  | nil => exact ⟨t, rfl, h⟩
  | cons op ops ih =>
      obtain ⟨t', left, paired⟩ := perform_database h op
      simp only [serve, left]
      exact ih paired

/-- A store in memory and a database whose table has no rows of theirs answer
all operations alike: a read with the text of the last write that has succeeded,
and a question for the time with its exact instant. The rows of the database
stay together, and those of others stay as they are. -/
theorem stores_are_one_register (rules : first.find? .rules = none)
    (stamp : first.find? .lastUpdated = none)
    (distinct : (first.map (·.1)).Nodup) (timely : ∀ op ∈ ops, op.IsTimely) :
    let inMemory := (memory {}).serve ops
    let inDatabase := (database { table := some first }).serve ops
    inMemory.1 = inDatabase.1 ∧
      (∀ (k : Nat) (op : Operation), ops[k]? = some op →
        inMemory.1[k]? =
          some (op.expected (Operation.lastWritten? (ops.take k)))) ∧
      ∃ t, inDatabase.2 = .database { table := some t } ∧ first.Paired t := by
  intro inMemory inDatabase
  have blank : (memory {}).Keeps none := ⟨rfl, trivial, rfl, rfl⟩
  have migrated : (database { table := some first }).Keeps none := by
    refine ⟨rfl, rfl, ?_, ?_⟩
    · simp [get, Database.get, Database.reach, Except.bind, Table.text?,
        rules, Except.mapError]
    · simp [lastUpdated, Database.lastUpdated, Database.reach, Except.bind,
        Table.text?, stamp]
  refine ⟨List.ext_getElem? fun k => ?_, fun k op there => ?_, ?_⟩
  · cases there : ops[k]? with
    | none =>
        have past := List.getElem?_eq_none_iff.1 there
        rw [List.getElem?_eq_none (by rwa [length_serve]),
          List.getElem?_eq_none (by rwa [length_serve])]
    | some op => rw [blank.serve timely there, migrated.serve timely there]
  · rw [blank.serve timely there, Option.or_none]
  · exact serve_database ⟨.inl ⟨rules, stamp⟩, fun _ _ _ => rfl, distinct⟩ ops

/-- Two writes, one of which fails at its second row, over a table with a row of
somebody else. -/
theorem failed_stamp_leaves_first_write :
    let row : Place × Entry := (⟨"other", "key"⟩, ⟨.text "old", ""⟩)
    let fault : Table.Step × DatabaseError := (.stamp, .poolTimedOut)
    let ops : List Operation := [.get, .set "[]" ⟨5, 120⟩ none,
      .set "[1]" ⟨9, 0⟩ (some fault), .get, .lastUpdated]
    let inDatabase := (database { table := some [row] }).serve ops
    ((memory {}).serve ops).1 = inDatabase.1 ∧
      inDatabase.1[4]? = some (.time (.ok ⟨5, 120⟩)) ∧
      ∃ t, inDatabase.2 = .database { table := some t } ∧
        Table.Paired [row] t := by
  intro row fault ops inDatabase
  have timely : ∀ op ∈ ops, op.IsTimely := by
    simp only [ops, List.forall_mem_cons]
    exact ⟨trivial, ⟨by decide, by decide, by decide⟩,
      ⟨by decide, by decide, by decide⟩, trivial, trivial, by simp⟩
  have absent : Table.find? [row] .rules = none := rfl
  obtain ⟨same, answers, rows⟩ :=
    stores_are_one_register absent rfl (by simp) timely
  exact ⟨same, same ▸ answers 4 .lastUpdated rfl, rows⟩

end Store

end RuleWatch
