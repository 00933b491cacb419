import RuleWatch.Json.Fault
import RuleWatch.Net.Host
import RuleWatch.Net.Url

/-!
Why rules could not be fetched: each cause names the stage that failed. A
request can fail before it is sent, on its way, or by its answer.
-/

namespace RuleWatch

/-- Why a request got no answer. -/
inductive TransportCause
  /-- The scheme is not one of the web. -/
  | scheme
  /-- The name of the host has no address. -/
  | unresolved
  /-- No way leads to the host. -/
  | unreachable
  /-- The connection closed before the answer. -/
  | closed
  /-- The answer is shorter than it says. -/
  | cutShort
  /-- Every answer sends the request elsewhere. -/
  | redirects
  deriving DecidableEq, Repr

namespace TransportCause

/-- The text for a request to the address `url`. -/
def message (url : String) : TransportCause → String
  | scheme => "builder error for url (" ++ url ++ "): URL scheme is not allowed"
  | unresolved => sending ++ connecting ++
      "dns error: failed to lookup address information: " ++
      "Temporary failure in name resolution"
  | unreachable => sending ++ connecting ++ "tcp connect error: " ++
      "Network is unreachable (os error 101)"
  | closed => sending ++ "connection closed before message completed"
  | cutShort =>
      "request or response body error: error reading a body from connection: " ++
          "end of file before message length reached"
  | redirects =>
      "error following redirect for url (" ++ url ++ "): too many redirects"
where
  sending := "error sending request for url (" ++ url ++ "): "
  connecting := "error trying to connect: "

end TransportCause

inductive FetchError
  /-- The address of the rules cannot be built. -/
  | url (cause : Net.UrlError)
  /-- There is no host to ask. -/
  | request (url : String)
  | transport (url : String) (cause : TransportCause)
  /-- The answer is not a success. -/
  | status (code : Nat)
  /-- The answer is no rule set. -/
  | decode (cause : Json.Refusal)
  | unavailable (message : String)

namespace FetchError

def message : FetchError → String
  | url e => "url join: " ++ e.message
  | request u => "new request: " ++ TransportCause.scheme.message u
  | transport u c => "http do: " ++ c.message u
  | status n => "unexpected http status " ++ toString n
  | decode e => "json decode: " ++ e.message
  | unavailable m => m

end FetchError

end RuleWatch
