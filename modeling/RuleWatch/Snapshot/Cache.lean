import RuleWatch.Snapshot.Basic
import RuleWatch.Snapshot.Lock

/-!
The current snapshot behind a lock. A client asks for the snapshot or for the
right to replace it, and comes back until its turn has come: a reader then takes
the snapshot along and gives the turn back, and a writer keeps its turn until it
leaves.
-/

namespace RuleWatch

inductive Ticket
  | waiting (access : Access)
  | snapshot (s : Snapshot)
  | writer

structure Cache where
  lock : Lock String := {}
  snapshot : Snapshot := .initial
  tickets : List (String × Ticket) := []

/-- The answer to a client that comes for its turn. -/
inductive Visit
  | pending
  | snapshot (s : Snapshot)
  | writer
  /-- The client has had its turn already. -/
  | done
  | unknown

namespace Cache

def ticket? (c : Cache) (client : String) : Option Ticket :=
  List.lookup client c.tickets

def setTicket (c : Cache) (client : String) (t : Ticket) : Cache :=
  { c with tickets := (client, t) :: c.tickets.filter (·.1 ≠ client) }

/-- A client comes for its turn. -/
def visit (c : Cache) (client : String) : Visit × Cache :=
  match c.ticket? client with
  | none => (.unknown, c)
  | some (.snapshot _) | some .writer => (.done, c)
  | some (.waiting access) =>
      if c.lock.holds client then
        match access with
        | .read =>
            let c := { c with lock := c.lock.leave client }
            (.snapshot c.snapshot, c.setTicket client (.snapshot c.snapshot))
        | .write => (.writer, c.setTicket client .writer)
      else (.pending, c)

/-- A client goes: it gives its turn or its place among the waiting back. -/
def leave (c : Cache) (client : String) : Cache :=
  { c with
    lock := c.lock.leave client
    tickets := c.tickets.filter (·.1 ≠ client) }

/-- A client asks for a turn and comes for it at once. -/
def request (c : Cache) (client : String) (access : Access) : Visit × Cache :=
  let c := c.leave client
  visit { c.setTicket client (.waiting access) with
    lock := c.lock.request ⟨client, access⟩ } client

def replace (c : Cache) (client : String) (detectors : List Detector) :
    Option Cache :=
  match c.ticket? client with
  | some .writer =>
      some { c with snapshot := ⟨c.snapshot.serial + 1, detectors⟩ }
  | _ => none

def snapshotOf? (c : Cache) (client : String) : Option Snapshot :=
  match c.ticket? client with
  | some (.snapshot s) => some s
  | _ => none

/-- The clients that have a turn and have not come for it. -/
def called (c : Cache) : List String :=
  c.tickets.filterMap fun (client, t) =>
    match t with
    | .waiting _ => if c.lock.holds client then some client else none
    | _ => none

end Cache

end RuleWatch
