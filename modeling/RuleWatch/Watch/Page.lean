import RuleWatch.Watch.Basic

/-!
The pages that a watch shows over the web: that it lives, its metrics, and how
many detectors it has. Pages can be got and asked for their head, and nothing
else.
-/

namespace RuleWatch

structure Page where
  status : Nat := 200
  contentType : Option String := none
  cacheControl : Option String := none
  /-- The methods that there are, where another one was asked for. -/
  allow : Option String := none
  body : String := ""

namespace Page

def health : Page where
  contentType := some "text/plain; charset=utf-8"
  cacheControl := some "no-store"
  body := "ok"

def metrics (m : Metrics) : Page where
  contentType := some "text/plain; version=0.0.4"
  body := m.page

def detectors (isEnabled : Bool) (count : Nat) : Page where
  contentType := some "application/json"
  body :=
    "\x7b\"enabled\":" ++ toString isEnabled ++ ",\"count\":" ++
      toString count ++ "\x7d"

def notFound : Page where
  status := 404

def notAllowed : Page where
  status := 405
  allow := some "GET,HEAD"

/-- The bytes of the body, which the head tells even without the body. -/
def length (p : Page) : Nat := p.body.utf8ByteSize

end Page

namespace Watch

def page? (w : Watch) : String → Option Page
  | "/health" => some .health
  | "/metrics" => some (.metrics w.metrics)
  | "/detectors" => some (.detectors w.isEnabled w.shared.snapshot.count)
  | _ => none

/-- The path of a request, which ends at the query. -/
def pathOf (target : String) : String :=
  String.ofList (target.toList.takeWhile fun c => c ≠ '?' ∧ c ≠ '#')

/-- The answer to a request, and whether its body is sent. -/
def respond (w : Watch) (method target : String) : Page × Bool :=
  match w.page? (pathOf target) with
  | none => (.notFound, method ≠ "HEAD")
  | some page =>
      if method = "GET" then (page, true)
      else if method = "HEAD" then (page, false)
      else (.notAllowed, true)

end Watch

end RuleWatch
