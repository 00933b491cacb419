import RuleWatch.Fetch.Source
import RuleWatch.Snapshot.Basic
import RuleWatch.Store.Basic

/-!
One refresh, and one restore. A refresh fetches the rules, compiles them, stores
them and only then puts the detectors in place; a restore takes the stored rules
instead. Whatever fails ends the call, and nothing behind the failure happens.
-/

namespace RuleWatch

/-- What the calls of a provider work on. -/
structure Shared where
  store : Store
  source : Source
  snapshot : Snapshot

namespace Shared

/-- Puts detectors in place, in a snapshot of their own. -/
def install (s : Shared) (detectors : List Detector) : Shared :=
  { s with snapshot := ⟨s.snapshot.serial + 1, detectors⟩ }

def answer (s : Shared) : Answer × Shared × List Event :=
  let (a, source, events) := s.source.answer
  (a, { s with source }, events)

/-- Stores rules that compile, and puts their detectors in place. -/
def keep (s : Shared) (now : Instant) (rules : RuleSet)
    (detectors : List Detector) :
    Except RefreshError Nat × Shared :=
  match s.store.set (RuleSet.encode rules) now with
  | .error e => (.error (.storeWrite e), s)
  | .ok store => (.ok detectors.length, { s with store }.install detectors)

def update (s : Shared) (now : Instant) :
    Except RefreshError Nat × Shared × List Event :=
  match { s with source := s.source.ask }.answer with
  | (.error e, s, events) => (.error (.fetch e), s, events)
  | (.ok rules, s, events) =>
      let events := events ++ Event.ofCompiling rules
      match rules.compile with
      | .error e => (.error (.compile e), s, events)
      | .ok detectors =>
          let (result, s) := s.keep now rules detectors
          (result, s, events)

def storedRules (raw : String) : Except RefreshError RuleSet :=
  (RuleSet.decode (Text.encode raw)).mapError .decode

/-- Takes the detectors from the store, if it holds any rules. -/
def restore (s : Shared) :
    Except RefreshError (Option Nat) × Shared × List Event :=
  match s.store.get with
  | .error e => (.error (.storeRead e), s, [])
  | .ok none => (.ok none, s, [])
  | .ok (some raw) =>
      match storedRules raw with
      | .error e => (.error e, s, [])
      | .ok rules =>
          let events := Event.ofCompiling rules
          match rules.compile with
          | .error e => (.error (.compile e), s, events)
          | .ok detectors =>
              (.ok (some detectors.length), s.install detectors, events)

end Shared

/-- The feature that turns detectors from rules on. -/
def detectionFlag : String := "dynamicAngularDetectionPatterns"

namespace Event

def ofRestore : Except RefreshError (Option Nat) → Event
  | .ok (some count) => restored count
  | .ok none => nothingStored
  | .error e => restoreFailed e

def ofUpdate : Except RefreshError Nat → Event
  | .ok count => refreshed count
  | .error e => refreshFailed e

end Event

namespace Shared

/-- Starts a provider over a store and a source, with no detectors but those it
restores. A restore that fails is only logged. -/
def start (s : Shared) (enabled : Bool) : Shared × List Event :=
  let s := s.install []
  if enabled then
    let (result, s, events) := s.restore
    (s, .restoring :: events ++ [.ofRestore result])
  else (s, [])

end Shared

end RuleWatch
