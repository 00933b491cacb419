import RuleWatch.Refresh.Fault

/-!
What is logged: one line for each event.
-/

namespace RuleWatch

inductive Event
  | fetching
  | fetched (count : Nat)
  | skipped (r : Rule)
  | restoring
  | restored (count : Nat)
  | nothingStored
  | restoreFailed (cause : RefreshError)
  | loopStarted (source : String) (seconds : Nat)
  | loopStopped
  | refreshing
  | refreshed (count : Nat)
  | refreshFailed (cause : RefreshError)

namespace Event

def level : Event → String
  | restored _ | loopStarted _ _ | loopStopped | refreshed _ => "INFO"
  | restoreFailed _ => "WARN"
  | refreshFailed _ => "ERROR"
  | fetching | fetched _ | skipped
        _ | restoring | nothingStored | refreshing => "DEBUG"

def text : Event → String
  | fetching => "Fetching detection rules"
  | fetched count => "Fetched detection rules rules=" ++ toString count
  | skipped r =>
      "Skipping rule of unknown type name=" ++ r.name ++ " kind=" ++ r.kind
  | restoring => "Restoring detectors from store"
  | restored count =>
      "Restored detectors from store detectors=" ++ toString count
  | nothingStored => "No stored rules to restore"
  | restoreFailed e => "Detector restore failed error=" ++ e.message
  | loopStarted source seconds =>
      "Detector refresh started source=" ++ source ++ " interval_secs=" ++
        toString seconds
  | loopStopped => "Shutdown signal received. Stopping detector refresh."
  | refreshing => "Updating detection rules"
  | refreshed count =>
      "Detection rules update finished detectors=" ++ toString count
  | refreshFailed e => "Error while updating detectors error=" ++ e.message

def line (e : Event) : String := e.level ++ " " ++ e.text

def ofCompiling (rules : RuleSet) : List Event := rules.skipped.map skipped

end Event

end RuleWatch
