import RuleWatch.Decimal.Shortest
import RuleWatch.Refresh.Fault

/-!
What is measured of the refreshes: how many there were, how many failed, how
many detectors the last success has loaded, and how long the last one took. The
numbers are binary fractions, so that counts beyond 2⁵³ are rounded.
-/

namespace RuleWatch

open Decimal

structure Metrics where
  refreshes : Binary := .zero
  failures : Binary := .zero
  loaded : Binary := .zero
  /-- In seconds. -/
  duration : Binary := .zero
  deriving DecidableEq, Repr

namespace Metrics

def ofCount (n : Nat) : Binary := (Binary.ofNat n).getD .zero

def increment (x : Binary) : Binary := (x.add (ofCount 1)).getD x

/-- The seconds of so many nanoseconds. Whole seconds and their fraction are
rounded before they are added. -/
def seconds (nanos : Nat) : Binary :=
  let whole := ofCount (nanos / 1000000000)
  ((Binary.ofRatio (nanos % 1000000000) 1000000000).bind whole.add).getD whole

def setLoaded (m : Metrics) (count : Nat) : Metrics :=
  { m with loaded := ofCount count }

/-- Counts a refresh that took so many nanoseconds. -/
def observe (m : Metrics) (result : Except RefreshError Nat)
    (nanos : Nat) : Metrics :=
  let m :=
    { m with refreshes := increment m.refreshes, duration := seconds nanos }
  match result with
  | .ok count => m.setLoaded count
  | .error _ => { m with failures := increment m.failures }

end Metrics

/-- A measured value with its description. -/
structure Sample where
  name : String
  help : String
  kind : String
  value : Binary

/-- A value with two lines of description in front of it. -/
def Sample.text (s : Sample) : String :=
  "# HELP " ++ s.name ++ " " ++ s.help ++ "\n# TYPE " ++ s.name ++ " " ++
    s.kind ++ "\n" ++
    s.name ++ " " ++ s.value.shortest.plain ++ "\n"

namespace Metrics

def samples (m : Metrics) : List Sample :=
  [⟨"detector_cache_detectors_loaded", "Detectors in the current snapshot",
    "gauge", m.loaded⟩,
    ⟨"detector_cache_last_refresh_duration_seconds",
      "Duration of the most recent refresh cycle in seconds",
      "gauge", m.duration⟩,
    ⟨"detector_cache_refresh_errors_total", "Refresh cycles that failed",
      "counter", m.failures⟩,
    ⟨"detector_cache_refresh_total", "Refresh cycles attempted",
      "counter", m.refreshes⟩]

def page (m : Metrics) : String := "".intercalate (m.samples.map Sample.text)

end Metrics

end RuleWatch
