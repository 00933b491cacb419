import RuleWatch.Net.Url
import RuleWatch.Text.Pieces

/-!
Reading URLs, whole or relative to another URL. Blanks and controls at the ends
and line breaks and tabs anywhere are dropped first.
-/

namespace RuleWatch.Net

open Percent

/-- The characters of a text that count. -/
def significant (s : String) : List Char :=
  let isEdge (c : Char) := decide (c.toNat ≤ 32)
  let inner := ((s.toList.dropWhile isEdge).reverse.dropWhile isEdge).reverse
  inner.filter fun c => c ≠ '\t' ∧ c ≠ '\n' ∧ c ≠ '\x0d'

def isSchemeChar (c : Char) : Bool :=
  c.isAlphanum || c = '+' || c = '-' || c = '.'

/-- The scheme at the start, in small letters, and what follows its colon. -/
def scheme? (s : List Char) : Option (String × List Char) :=
  if !(s.head?.any Char.isAlpha) then none
  else match s.dropWhile isSchemeChar with
    | ':' :: rest =>
        some (.ofList ((s.takeWhile isSchemeChar).map Char.toLower), rest)
    | _ => none

namespace SchemeKind

def isSlash (k : SchemeKind) (c : Char) : Bool :=
  c = '/' || k.isSpecial && c = '\\'

def endsAuthority (k : SchemeKind) (c : Char) : Bool :=
  k.isSlash c || c = '?' || c = '#'

end SchemeKind

def isSingleDot (s : String) : Bool := s = "." || s.toLower = "%2e"

def isDoubleDot (s : String) : Bool :=
  s = ".." || s.toLower = ".%2e" || s.toLower = "%2e." || s.toLower = "%2e%2e"

def isDrive (s : String) : Bool :=
  match s.toList with
  | [c, d] => c.isAlpha && (d = ':' || d = '|')
  | _ => false

def isPlainDrive (s : String) : Bool :=
  isDrive s && s.toList.getLast? = some ':'

namespace Path

/-- Goes up by one segment. Drives stay. -/
def up (done : List String) : List String :=
  if done.getLast?.any isDrive then done else done.dropLast

def enter (k : SchemeKind) (done : List String) (s : String) : List String :=
  if isDoubleDot s then up done
  else if isSingleDot s then done
  else if k = .file ∧ done.isEmpty ∧ isDrive s then
    [.ofList (s.toList.take 1 ++ [':'])]
  else done ++ [s]

def finish (k : SchemeKind) (done : List String) (s : String) : List String :=
  if isDoubleDot s || isSingleDot s then enter k done s ++ [""]
  else enter k done s

/-- Resolves segments, written as they are, against those before them. -/
def resolve (k : SchemeKind) (done : List String) : List String → List String
  | [] => done
  | [s] => finish k done s
  | s :: t :: rest => resolve k (enter k done s) (t :: rest)

/-- Files have no empty segments in front. -/
def settle (k : SchemeKind) (names : List String) : List String :=
  if k = .file then
    match names.dropWhile String.isEmpty with
    | [] => [""]
    | names => names
  else names

end Path

def readPath (k : SchemeKind) (done : List String) (s : List Char) : Path :=
  .segments (Path.settle k (Path.resolve k done
    ((Text.pieces k.isSlash s).map fun p => .ofList (encode inPath p))))

/-- Reads a path that nothing stands before. The slash in front may be
missing. -/
def readRoot (k : SchemeKind) : List Char → Path
  | [] => if k.isSpecial then .segments [""] else .segments []
  | c :: cs => readPath k [] (if k.isSlash c then cs else c :: cs)

def cutPath (s : List Char) : List Char × List Char :=
  s.span fun c => c ≠ '?' ∧ c ≠ '#'

def withSuffix (u : Url) (s : List Char) : Url :=
  let readFragment (f : List Char) : String := .ofList (encode inFragment f)
  match s with
  | '?' :: rest =>
      let (q, f) := rest.span (· ≠ '#')
      let escaped := if u.kind.isSpecial then inWebQuery else inQuery
      { u with
        query := some (.ofList (encode escaped q))
        fragment := match f with
          | _ :: f => some (readFragment f)
          | [] => none }
  | '#' :: f => { u with query := none, fragment := some (readFragment f) }
  | _ => { u with query := none, fragment := none }

def readBehindAuthority (scheme : String) (a : Authority)
    (s : List Char) : Url :=
  let (p, suffix) := cutPath s
  let path := readRoot (SchemeKind.ofScheme scheme) p
  withSuffix { scheme, authority := some a, path } suffix

def readUserInfo (s : List Char) : String × String :=
  let (name, password) := s.span (· ≠ ':')
  (.ofList (encode inUserInfo name),
    .ofList (encode inUserInfo (password.drop 1)))

/-- Cuts off the credentials, which end at the last at-sign of the authority. -/
def cutUserInfo (k : SchemeKind) (s : List Char) :
    Option (List Char) × List Char :=
  let authority := s.takeWhile (!k.endsAuthority ·)
  if authority.contains '@' then
    let host := (authority.reverse.takeWhile (· ≠ '@')).reverse
    let n := authority.length - host.length
    (some (s.take (n - 1)), s.drop n)
  else (none, s)

/-- Cuts off the host, in which colons count only inside brackets. -/
def cutHost (k : SchemeKind) (inBrackets : Bool) :
    List Char → List Char × List Char
  | [] => ([], [])
  | c :: cs =>
      if k.endsAuthority c || (c = ':' && !inBrackets) then ([], c :: cs)
      else
        let (host, rest) :=
          cutHost k (if c = '[' then true else if c = ']' then false
            else inBrackets) cs
        (c :: host, rest)

/-- Reads a port. The number may be missing. -/
def readUrlPort (value : Option Nat) :
    List Char → Except UrlError (Option Nat × List Char)
  | [] => .ok (value, [])
  | c :: cs =>
      if c.isDigit then
        let n := value.getD 0 * 10 + (c.toNat - '0'.toNat)
        if n ≤ 0xFFFF then readUrlPort (some n) cs else .error .invalidPort
      else if c = '/' ∨ c = '\\' ∨ c = '?' ∨ c = '#' then .ok (value, c :: cs)
      else .error .invalidPort

def readAuthority (scheme : String) (s : List Char) : Except UrlError Url := do
  let k := SchemeKind.ofScheme scheme
  let (userInfo, rest) := cutUserInfo k s
  if userInfo = some [] ∧ rest.head?.any k.endsAuthority then throw .emptyHost
  let (username, password) := readUserInfo (userInfo.getD [])
  let (hostText, rest) := cutHost k false rest
  if k.isSpecial ∧ hostText.isEmpty then throw .emptyHost
  let host ← if k.isSpecial then Host.read hostText
    else Host.readOpaque hostText
  if host.isEmpty ∧ (rest.head? = some ':' ∨ username ≠ "" ∨ password ≠ "") then
    throw .emptyHost
  let (port, rest) ← match rest with
    | ':' :: rest => readUrlPort none rest
    | _ => .ok (none, rest)
  let port := if port = defaultPort? scheme then none else port
  return readBehindAuthority scheme { username, password, host, port } rest

def fileAuthority : Authority := { host := .name "" }

def localFile (path : Path) : Url :=
  { scheme := "file", authority := some fileAuthority, path }

def startsWithDrive : List Char → Bool
  | c :: d :: rest =>
      c.isAlpha && (d = ':' || d = '|') &&
        (rest.head?.all fun e => e = '/' || e = '\\' || e = '?' || e = '#')
  | _ => false

/-- Reads a file behind the slashes that announce a host. A drive there is no
host, and a drive at the start of the path leaves no host. -/
def readFileHost (s : List Char) : Except UrlError Url := do
  let (hostText, rest) := s.span (!SchemeKind.file.endsAuthority ·)
  if isDrive (.ofList hostText) then
    return readBehindAuthority "file" fileAuthority s
  let host ← if hostText.isEmpty then .ok (Host.name "") else Host.read hostText
  let host := if host = .name "localhost" then .name "" else host
  let u := readBehindAuthority "file" { host } rest
  let isOnDrive := match u.path with
    | .segments (first :: _) => isPlainDrive first
    | _ => false
  return if isOnDrive then { u with authority := some fileAuthority } else u

/-- The host that an absolute path of a file keeps, and the drive. -/
def fileRoot (base : Option Url) (s : List Char) : Authority × List String :=
  if startsWithDrive s then (fileAuthority, [])
  else match base with
    | some { path := .segments (first :: _), authority, .. } =>
        if isPlainDrive first then (fileAuthority, [first])
        else (authority.getD fileAuthority, [])
    | _ => (fileAuthority, [])

/-- The segments that a relative path starts from. -/
def Url.folder (u : Url) : List String :=
  match u.path with
  | .segments names =>
      if u.kind = .file ∧ names.getLast?.any isPlainDrive then names
      else names.dropLast
  | .whole _ => []

/-- Reads a reference against a URL that has segments. -/
def readRelative (base : Url) (s : List Char) : Except UrlError Url :=
  let k := base.kind
  let (p, suffix) := cutPath s
  match p with
  | [] =>
      match suffix with
      | [] => .ok { base with fragment := none }
      | '#' :: _ => .ok { withSuffix base suffix with query := base.query }
      | _ => .ok (withSuffix base suffix)
  | c :: cs =>
      if c = '/' ∨ c = '\\' then
        match cs with
        | d :: _ =>
            if d = '/' ∨ d = '\\' then
              readAuthority base.scheme
                (s.dropWhile fun e => e = '/' ∨ e = '\\')
            else .ok (withSuffix { base with path := readPath k [] cs } suffix)
        | [] => .ok (withSuffix { base with path := readPath k [] cs } suffix)
      else .ok (withSuffix
        { base with path := readPath k base.folder p } suffix)

def readFile (base : Option Url) (s : List Char) : Except UrlError Url :=
  let (p, suffix) := cutPath s
  match p with
  | c :: cs =>
      if c = '/' ∨ c = '\\' then
        if cs.head?.any fun d => d = '/' || d = '\\' then
          readFileHost (s.drop 2)
        else
          let (authority, root) := fileRoot base (s.drop 1)
          let path := readPath .file root cs
          .ok (withSuffix
            { scheme := "file", authority := some authority, path } suffix)
      else match base with
        | some b =>
            if startsWithDrive s then
              .ok (withSuffix (localFile (readPath .file [] p)) suffix)
            else readRelative b s
        | none =>
            .ok (withSuffix (localFile (readPath .file [] p)) suffix)
  | [] =>
      match base with
      | some b => readRelative b s
      | none =>
          .ok (withSuffix (localFile (.segments [""])) suffix)

def readOther (scheme : String) (s : List Char) : Except UrlError Url :=
  match s with
  | '/' :: '/' :: rest => readAuthority scheme rest
  | '/' :: rest =>
      let (p, suffix) := cutPath rest
      let path := readPath .other [] p
      .ok (withSuffix { scheme, authority := none, path } suffix)
  | _ =>
      let (p, suffix) := cutPath s
      let path := Path.whole (.ofList (encode isControl p))
      .ok (withSuffix { scheme, authority := none, path } suffix)

def readScheme (base : Option Url) (scheme : String) (s : List Char) :
    Except UrlError Url :=
  match SchemeKind.ofScheme scheme with
  | .file => readFile (base.filter (·.scheme = "file")) s
  | .other => readOther scheme s
  | .web =>
      let slashes := s.takeWhile fun c => c = '/' ∨ c = '\\'
      match base with
      | some b =>
          if slashes.length < 2 ∧ b.scheme = scheme then readRelative b s
          else readAuthority scheme (s.drop slashes.length)
      | none => readAuthority scheme (s.drop slashes.length)

namespace Url

def parse (text : String) : Except UrlError Url :=
  match scheme? (significant text) with
  | some (scheme, rest) => readScheme none scheme rest
  | none => .error .relativeWithoutBase

def join (base : Url) (text : String) : Except UrlError Url :=
  let s := significant text
  match scheme? s with
  | some (scheme, rest) => readScheme (some base) scheme rest
  | none =>
      match s, base.path with
      | '#' :: _, _ => .ok { withSuffix base s with query := base.query }
      | _, .whole _ => .error .baseWithoutPath
      | _, .segments _ =>
          if base.kind = .file then readFile (some base) s
          else readRelative base s

/-- Puts another path in place. It is read like a path of a whole URL, but marks
of a query or of a fragment are part of it. -/
def withPath (u : Url) (text : List Char) : Url :=
  match u.path, text with
  | .segments _, _ => { u with path := readRoot u.kind text }
  | .whole _, '/' :: cs =>
      { u with path := .whole (.ofList ("%2F".toList ++ encode isControl cs)) }
  | .whole _, cs => { u with path := .whole (.ofList (encode isControl cs)) }

/-- The same place with a slash at its end, so that relative paths go below
it. -/
def asFolder (u : Url) : Url :=
  let path := u.path.text.toList
  if path.getLast? = some '/' then u else u.withPath (path ++ ['/'])

end Url

end RuleWatch.Net
