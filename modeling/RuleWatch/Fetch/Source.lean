import RuleWatch.Fetch.Client
import RuleWatch.Refresh.Event

/-!
Sources of rules: a place on a network, or a script of answers. A script counts
its calls and can hold every call at a gate, which is opened for one call at a
time.
-/

namespace RuleWatch

abbrev Answer := Except FetchError RuleSet

structure Script where
  queue : List Answer := []
  /-- The answer once the queue is empty. -/
  fallback : Option Answer := none
  isGated : Bool := false
  /-- Whether the gate stands open for one call. -/
  isOpen : Bool := false
  calls : Nat := 0

namespace Script

def take (s : Script) : Answer × Script :=
  match s.queue with
  | a :: queue => (a, { s with queue })
  | [] => (s.fallback.getD (.error (.unavailable "script exhausted")), s)

/-- Whether a call has to wait. -/
def isHeld (s : Script) : Bool := s.isGated && !s.isOpen

end Script

inductive Source
  | script (s : Script)
  | api (base : String) (network : Network)

namespace Source

def name : Source → String
  | script _ => "script"
  | api _ _ => "rules-api"

def calls : Source → Nat
  | script s => s.calls
  | api _ _ => 0

def ask : Source → Source
  | script s => script { s with calls := s.calls + 1 }
  | api base network => api base network

/-- Whether a call that has been started has to wait for its answer. -/
def isHeld : Source → Bool
  | script s => s.isHeld
  | api _ _ => false

def fetch (base : String) (network : Network) : Answer × List Event :=
  match rulesUrl base with
  | .error e => (.error (.url e), [])
  | .ok url =>
      match network.fetchFrom url with
      | .ok rules => (.ok rules, [.fetching, .fetched rules.length])
      | .error e => (.error e, [.fetching])

/-- Ends a call. It closes the gate behind it. -/
def answer : Source → Answer × Source × List Event
  | script s =>
      let (a, s) := s.take
      (a, script { s with isOpen := false }, [])
  | api base network =>
      let (a, events) := fetch base network
      (a, api base network, events)

end Source

end RuleWatch
