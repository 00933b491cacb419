import RuleWatch.Program.Fault
import RuleWatch.Program.Files
import RuleWatch.Refresh.Cycle
import RuleWatch.Settings.EnvironmentFile
import RuleWatch.Store.Location
import RuleWatch.Store.Sheet
import RuleWatch.Watch.Timer

/-!
Runs of the program. A run looks for options, settings and the database, in this
order, and then scans a file, refreshes once, or keeps watch. What stops a run
is told in one line, and only the file of the database can be another one
afterwards.
-/

namespace RuleWatch

open CommandLine

/-- What a run finds around it. -/
structure Surroundings where
  environment : Environment
  files : Files
  network : Network
  now : Instant

/-- What is wanted of a run. -/
inductive Errand
  | scan (path : String)
  | once
  | watch

def CommandLine.Options.errand (o : Options) : Errand :=
  match o.scan with
  | some path => .scan path
  | none => if o.once then .once else .watch

/-- What a run shows and leaves. -/
structure Report where
  code : Nat := 0
  output : String := ""
  complaint : String := ""
  /-- The file of the database with its content. -/
  database : Option (String × List UInt8) := none
  /-- What goes on behind the start. -/
  watch : Option Watch := none

namespace Report

def ofRefusal (r : Refusal) : Report :=
  if r.isAnswer then { output := r.report }
  else { code := 2, complaint := r.report }

def ofError (e : ProgramError) : Report :=
  { code := 1, output := "ERROR " ++ e.message ++ "\n" }

end Report

namespace Surroundings

/-- The environment with the file that adds to it. -/
def fullEnvironment (w : Surroundings) : Environment :=
  match w.files ".env" with
  | .file content => EnvironmentFile.load w.environment content
  | _ => w.environment

def settings (w : Surroundings) (o : CommandLine.Options) :
    Except ProgramError Settings :=
  (Settings.load w.fullEnvironment o).mapError fun e => .settings e.message

/-- Opens the database at a location. One that is not there is made, and making
it takes writes. -/
def openDatabase (w : Surroundings) (l : Location) :
    Except DatabaseError Database :=
  match l.fault? with
  | some fault => .error (.engine fault)
  | none =>
      if l.inMemory then .ok {}
      else if l.file = "" then
        if l.isReadOnly then .error (.migration .readOnly) else .ok {}
      else match w.files l.file with
        | .file content =>
            match Table.ofFile? content with
            | some table => .ok { table, stepFaults := l.stepFaults }
            | none => .error (.migration .notDatabase)
        | .free =>
            if l.isReadOnly then .error (.engine .cannotOpen)
            else if l.isImmutable then .error (.migration .readOnly)
            else .ok {}
        | .folder | .missing | .blocked => .error (.engine .cannotOpen)

def database (w : Surroundings) (s : Settings) :
    Except ProgramError (Location × Database) :=
  match Location.read s.databaseUrl with
  | .error fault => .error (.database (.location fault))
  | .ok l =>
      match w.openDatabase l with
      | .error e => .error (.database e)
      | .ok db => .ok (l, db)

end Surroundings

namespace Shared

def verdict (s : Shared) (path : String) (content : List UInt8) : String :=
  path ++ ": " ++
    (if s.snapshot.detects content then "match" else "no match") ++ " (" ++
    toString s.snapshot.count ++ " detectors)\n"

/-- Looks through a file with the stored rules. They are in place already where
detectors from rules are turned on. -/
def scan (s : Shared) (isEnabled : Bool) (files : Files) (path : String) :
    Except ProgramError String × Shared :=
  let (restored, s, _) := if isEnabled then (.ok none, s, []) else s.restore
  match restored, files.read path with
  | .error e, _ => (.error (.refresh e), s)
  | .ok _, .error fault => (.error (.file fault.message), s)
  | .ok _, .ok content => (.ok (s.verdict path content), s)

def once (s : Shared) (now : Instant) : Except ProgramError String × Shared :=
  let (result, s, _) := s.update now
  (match result with
    | .ok _ => .ok ""
    | .error e => .error (.refresh e), s)

end Shared

/-- A watch that counts the detectors it begins with. Its loop runs only where
detectors from rules are turned on. -/
def Watch.begin (shared : Shared) (isEnabled : Bool) (s : Settings)
    (now : Instant) : Watch :=
  let w : Watch := {
    shared, isEnabled
    interval := s.refreshInterval * 1000000000
    wall := now }
  let w := { w with metrics := w.metrics.setLoaded shared.snapshot.count }
  if isEnabled then w.enter.settle else w

namespace Surroundings

/-- The content of the file of a database, unless it lives in memory. -/
def fileOf (l : Location) : Store → Option (String × List UInt8)
  | .database { table := some t, .. } =>
      if l.inMemory ∨ l.file = "" then none else some (l.file, t.toFile)
  | _ => none

def carryOut (w : Surroundings) (s : Settings) (shared : Shared) :
    Errand → Report × Shared
  | .watch =>
      let watch :=
        Watch.begin shared (s.features.isEnabled detectionFlag) s w.now
      ({ watch := some watch }, watch.shared)
  | .scan path =>
      report (shared.scan (s.features.isEnabled detectionFlag) w.files path)
  | .once => report (shared.once w.now)
where
  report : Except ProgramError String × Shared → Report × Shared
    | (.ok output, shared) => ({ output }, shared)
    | (.error e, shared) => (.ofError e, shared)

/-- The part of a run behind its settings. -/
def perform (w : Surroundings) (s : Settings) (errand : Errand) : Report :=
  match w.database s with
  | .error e => .ofError e
  | .ok (l, db) =>
      let fresh : Shared :=
        ⟨.database db, .api s.rulesBaseUrl w.network, .initial⟩
      let (shared, _) := fresh.start (s.features.isEnabled detectionFlag)
      let (report, shared) := w.carryOut s shared errand
      { report with database := fileOf l shared.store }

def run (w : Surroundings) (args : List String) : Report :=
  match CommandLine.Options.ofArguments args with
  | .error r => .ofRefusal r
  | .ok o =>
      match w.settings o with
      | .error e => .ofError e
      | .ok s => w.perform s o.errand

/-- The files that a run with its arguments looks at, beyond the one that adds
to the environment. -/
def paths (w : Surroundings) (args : List String) : List String :=
  match CommandLine.Options.ofArguments args with
  | .error _ => []
  | .ok o => o.scan.toList ++
      match w.settings o with
      | .error _ => []
      | .ok s => ((Location.read s.databaseUrl).toOption.map (·.file)).toList

end Surroundings

end RuleWatch
