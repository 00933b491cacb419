import RuleWatch.Store.Fault

/-!
A store in memory. Reading, writing and telling the time of the last update can
each be switched off.
-/

namespace RuleWatch

structure MemoryStore where
  value : Option String := none
  updated : Instant := .epoch
  failsReads : Bool := false
  failsWrites : Bool := false
  failsUpdated : Bool := false
  deriving DecidableEq, Repr

namespace MemoryStore

def get (s : MemoryStore) : Except StoreError (Option String) :=
  if s.failsReads then .error (.unavailable "memory store: reads disabled")
  else .ok s.value

def set (s : MemoryStore) (value : String) (now : Instant) :
    Except StoreError MemoryStore :=
  if s.failsWrites then .error (.unavailable "memory store: writes disabled")
  else .ok { s with value := some value, updated := now }

def lastUpdated (s : MemoryStore) : Except StoreError Instant :=
  if s.failsUpdated then
    .error (.unavailable "memory store: last updated disabled")
  else .ok s.updated

end MemoryStore

end RuleWatch
