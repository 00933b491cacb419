import RuleWatch.Program.Run
import RuleWatch.Proofs.Fetching
import RuleWatch.Proofs.WrittenTables

/-!
Runs of the program on an errand. A run that finds options, settings and a
database reports what its errand comes to, and the only file that it changes is
the one of the database.
-/

namespace RuleWatch

open CommandLine

theorem Report.ofError_refresh (e : RefreshError) :
    ofError (.refresh e) =
      { code := 1,
        output := "ERROR Refresh error: " ++ e.message ++ "\n" } := by
  have start : "ERROR Refresh error: " =
      "ERROR " ++ "Refresh error: " := by decide
  have whole : "ERROR Refresh error: " ++ e.message =
      "ERROR " ++ ("Refresh error: " ++ e.message) := by
    rw [start, String.append_assoc]
  rw [whole]
  rfl

def Report.ofAnswer : Except ProgramError String → Report
  | .ok output => { output }
  | .error e => ofError e

namespace Surroundings

/-- What a run finds before it carries out its errand: options, settings and a
database. -/
structure Finds (w : Surroundings) (args : List String) (errand : Errand)
    (s : Settings) (l : Location) (db : Database) : Prop where
  options : ∃ o, Options.ofArguments args = .ok o ∧ o.errand = errand ∧
    w.settings o = .ok s
  location : Location.read s.databaseUrl = .ok l
  database : w.openDatabase l = .ok db

section

variable {w : Surroundings} {args : List String} {errand : Errand}
  {s : Settings} {l : Location} {db : Database}

def provider (w : Surroundings) (s : Settings) (db : Database) : Shared :=
  (Shared.start ⟨.database db, .api s.rulesBaseUrl w.network, .initial⟩
    (s.features.isEnabled detectionFlag)).1

theorem run_of_finds (h : w.Finds args errand s l db) :
    w.run args =
      { (w.carryOut s (w.provider s db) errand).1 with
        database :=
          fileOf l (w.carryOut s (w.provider s db) errand).2.store } := by
  obtain ⟨o, options, rfl, settings⟩ := h.options
  have database : w.database s = .ok (l, db) := by
    rw [Surroundings.database, h.location]
    simp only [h.database]
  rw [run, options]
  simp only [settings]
  rw [perform, database]
  rfl

theorem carryOut_report (result : Except ProgramError String × Shared) :
    carryOut.report result = (.ofAnswer result.1, result.2) := by
  obtain ⟨_ | _, s⟩ := result <;> rfl

end

/-! ### A folder with a database -/

theorem isEnabled_detectionFlag :
    (Features.ofList detectionFlag).isEnabled detectionFlag = true := by
  have blank : Features.isBlank =
      fun c => Text.CodeSet.has c.toNat Unicode.whitespace.ranges := rfl
  unfold Features.ofList Features.trim
  rw [blank, Unicode.ranges_whitespace]
  decide +kernel

/-- A folder with a file `f`, and with a database at the place where it is
looked for. -/
def folder (t : Table) (given : List (String × String)) (network : Network) :
    Surroundings where
  environment name := List.lookup name given
  files path :=
    if path = "f" then .file [0x78]
    else if path = "detectors.db" then .file t.toFile
    else .free
  network
  now := .epoch

section

variable {t : Table} {given : List (String × String)} {network : Network}
  {args : List String} {o : Options} {s : Settings}

theorem folder_finds (options : Options.ofArguments args = .ok o)
    (settings : (folder t given network).settings o = .ok s)
    (url : s.databaseUrl = Settings.defaultDatabaseUrl) :
    (folder t given network).Finds args o.errand s
      { file := "detectors.db", inMemory := false } { table := some t } := by
  refine ⟨⟨o, options, rfl, settings⟩, ?_, ?_⟩
  · have read : (Location.read Settings.defaultDatabaseUrl).toOption =
        some { file := "detectors.db", inMemory := false } := by decide +kernel
    rw [url]
    exact toOption_eq_some_iff.1 read
  · have spot : (folder t given network).files "detectors.db" =
        .file t.toFile := rfl
    simp only [openDatabase, Location.fault?, spot, t.ofFile?_toFile,
      Location.stepFaults]
    rfl

end

def oneRule : RuleSet := [⟨"x", "contains", "x"⟩]

def brokenTable : Table := [(.rules, ⟨.text "garbage", ""⟩)]

/-- What a run in a folder goes by, with some flags and everything else left
out. -/
def folderSettings (flags : String) : Settings where
  rulesBaseUrl := ""
  databaseUrl := Settings.defaultDatabaseUrl
  refreshInterval := Settings.defaultRefreshInterval
  httpTimeout := Settings.defaultHttpTimeout
  features := .ofList flags
  statusAddress := Settings.defaultStatusAddress

end Surroundings

end RuleWatch
