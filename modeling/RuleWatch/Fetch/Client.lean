import RuleWatch.Fetch.Endpoint
import RuleWatch.Fetch.Fault
import RuleWatch.Rule.Document

/-!
Fetching the rules over a network. The address must name a host, the answer must
be a success, and its body must be a rule set, in this order. An answer may send
the request elsewhere, but not too often.
-/

namespace RuleWatch

/-- An answer from a host. -/
structure Reply where
  status : Nat
  /-- Where the answer sends the request. -/
  location : Option String := none
  body : Except TransportCause (List UInt8)

namespace Reply

def isSuccess (r : Reply) : Bool := 200 ≤ r.status && r.status < 300

/-- The place that an answer sends a request for `url` to. -/
def redirect? (url : Net.Url) (r : Reply) : Option Net.Url :=
  if [301, 302, 303, 307, 308].contains r.status then
    r.location.bind fun l => (url.join l).toOption
  else none

def rules (url : Net.Url) (r : Reply) : Except FetchError RuleSet :=
  if r.isSuccess then
    match r.body with
    | .ok body => (RuleSet.decode body).mapError .decode
    | .error cause => .error (.transport url.text cause)
  else .error (.status r.status)

end Reply

/-- What a request for an address leads to. -/
abbrev Network := Net.Url → Except TransportCause Reply

namespace Network

/-- A machine of its own: it knows no names but its own, and no way leads
out. -/
def isolated : Network := fun url =>
  match url.authority with
  | some { host := .name name, .. } =>
      .error (if name = "localhost" then .unreachable else .unresolved)
  | _ => .error .unreachable

def send (net : Network) (url : Net.Url) : Except FetchError Reply :=
  if ["http", "https"].contains url.scheme then
    (net url).mapError (.transport url.text)
  else .error (.transport url.text .scheme)

/-- Sends a request and follows at most `n` answers that send it elsewhere. -/
def follow (net : Network) : Nat → Net.Url → Except FetchError (Net.Url × Reply)
  | 0, url => do
      let reply ← net.send url
      match reply.redirect? url with
      | some _ => throw (.transport url.text .redirects)
      | none => return (url, reply)
  | n + 1, url => do
      let reply ← net.send url
      match reply.redirect? url with
      | some next => net.follow n next
      | none => return (url, reply)

/-- How many answers may send a request elsewhere. -/
def redirectLimit : Nat := 9

def fetchFrom (net : Network) (url : Net.Url) : Except FetchError RuleSet := do
  if !url.hasHost then throw (.request url.text)
  let (url, reply) ← net.follow redirectLimit url.withoutCredentials
  reply.rules url

end Network

end RuleWatch
