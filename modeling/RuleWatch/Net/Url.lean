import RuleWatch.Net.Host

/-!
URLs in their parts. A URL of a scheme that the web knows always has a host and
a path of segments; other schemes may lack the host, and their path may be one
opaque text that nothing can be resolved against.
-/

namespace RuleWatch.Net

/-- Everything between the two slashes and the path. -/
structure Authority where
  username : String := ""
  password : String := ""
  host : Host
  port : Option Nat := none
  deriving DecidableEq, Repr

inductive Path
  | whole (text : String)
  | segments (names : List String)
  deriving DecidableEq, Repr

structure Url where
  scheme : String
  authority : Option Authority
  path : Path
  query : Option String := none
  fragment : Option String := none
  deriving DecidableEq, Repr

/-- How a scheme treats hosts and paths. -/
inductive SchemeKind
  | web
  | file
  | other
  deriving DecidableEq, Repr

def SchemeKind.ofScheme (scheme : String) : SchemeKind :=
  if scheme = "file" then file
  else if ["http", "https", "ws", "wss", "ftp"].contains scheme then web
  else other

/-- Whether backslashes count as slashes. -/
def SchemeKind.isSpecial (k : SchemeKind) : Bool := k ≠ other

def defaultPort? (scheme : String) : Option Nat :=
  if scheme = "http" ∨ scheme = "ws" then some 80
  else if scheme = "https" ∨ scheme = "wss" then some 443
  else if scheme = "ftp" then some 21
  else none

namespace Authority

def text (a : Authority) : String :=
  let credentials :=
    a.username ++ (if a.password.isEmpty then "" else ":" ++ a.password)
  (if credentials.isEmpty then "" else credentials ++ "@") ++ a.host.text ++
    match a.port with
    | some port => ":" ++ toString port
    | none => ""

end Authority

namespace Path

def slashed (names : List String) : String :=
  "".intercalate (names.map ("/" ++ ·))

def text : Path → String
  | whole s => s
  | segments names => slashed names

end Path

namespace Url

def kind (u : Url) : SchemeKind := .ofScheme u.scheme

/-- The path, with a dot in front where it would read as a host. -/
def pathText (u : Url) : String :=
  match u.authority, u.path with
  | none, .segments ("" :: name :: names) =>
      "/." ++ Path.slashed ("" :: name :: names)
  | _, p => p.text

def hasHost (u : Url) : Bool := u.authority.any (!·.host.isEmpty)

def withoutCredentials (u : Url) : Url :=
  { u with
    authority := u.authority.map ({ · with username := "", password := "" }) }

def target (u : Url) : String :=
  u.path.text ++ match u.query with
    | some q => "?" ++ q
    | none => ""

def text (u : Url) : String :=
  u.scheme ++ ":" ++ (match u.authority with
      | some a => "//" ++ a.text
      | none => "") ++
    u.pathText ++ (match u.query with
      | some q => "?" ++ q
      | none => "") ++
    match u.fragment with
    | some f => "#" ++ f
    | none => ""

end Url

end RuleWatch.Net
