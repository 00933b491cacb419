import RuleWatch.Program.Run
import Std.Time.DateTime.Timestamp

/-!
The program on the command line. It reads what a run looks at, leaves the run to
`run`, and writes what has come of it. It has no way out to a network.
-/

namespace RuleWatch

def currentInstant : IO Instant := do
  let d := (← Std.Time.Timestamp.now).toDurationSinceUnixEpoch
  return ⟨d.second.val, d.nano.val.toNat⟩

def isFolder (path : String) : IO Bool := do
  match ← (IO.FS.realPath path).toBaseIO with
  | .ok place => place.isDir
  | .error _ => return false

/-- What is at a path on this machine. -/
def spotAt (path : String) : IO Spot := do
  if ← isFolder path then return .folder
  match ← (IO.FS.readBinFile path).toBaseIO with
  | .ok content => return .file content.toList
  | .error _ =>
      let parent := Files.parent path
      if ← isFolder parent then return .free
      match ← (IO.FS.readBinFile parent).toBaseIO with
      | .ok _ => return .blocked
      | .error _ => return .missing

/-- Reads what is at some paths. -/
def look (paths : List String) : IO Files := do
  let spots ← paths.mapM fun path => return (path, ← spotAt path)
  return fun path => (List.lookup path spots).getD .missing

def currentSurroundings (args : List String) : IO Surroundings := do
  let environment :=
    EnvironmentFile.ofBlock (← IO.FS.readBinFile "/proc/self/environ").toList
  let first : Surroundings := {
    environment
    files := ← look [".env"]
    network := .isolated
    now := ← currentInstant }
  return { first with files := ← look (".env" :: first.paths args) }

/-- Keeps watch, second by second. -/
partial def keep (w : Watch) : IO Unit := do
  for e in w.log do
    if e.level = "ERROR" then IO.println e.line
  (← IO.getStdout).flush
  IO.sleep 1000
  let wall ← currentInstant
  keep ({ w with wall, log := [] }.pass 1000000000)

end RuleWatch

open RuleWatch in
def main (args : List String) : IO UInt32 := do
  let surroundings ← currentSurroundings args
  let report := surroundings.run args
  IO.print report.output
  IO.eprint report.complaint
  if let some (name, content) := report.database then
    IO.FS.writeBinFile name content.toByteArray
  if let some watch := report.watch then keep watch
  return .ofNat report.code
