import RuleWatch.Proofs.Errands
import RuleWatch.Proofs.Gates

/-!
What scans report. A scan tells what the detectors of the stored rules find in a
file, and looks at nothing else. Main statement: the settings make no difference
as long as the rules can be used, but where detectors from rules are turned on,
rules that cannot be used count as none.
-/

namespace RuleWatch

/-- The detectors that the content of a store stands for: none if nothing is
stored. -/
def Store.detectors (s : Store) : Except RefreshError (List Detector) :=
  match s.get with
  | .error e => .error (.storeRead e)
  | .ok none => .ok []
  | .ok (some raw) =>
      match RuleSet.decode (Text.encode raw) with
      | .error cause => .error (.decode cause)
      | .ok rules => rules.compile.mapError .compile

namespace Shared

theorem restore_detectors {s : Shared} (empty : s.snapshot.detectors = []) :
    (∀ ds, s.store.detectors = .ok ds →
      (∃ n, s.restore.1 = .ok n) ∧ s.restore.2.1.snapshot.detectors = ds) ∧
      ∀ e, s.store.detectors = .error e →
        s.restore.1 = .error e ∧ s.restore.2.1.snapshot.detectors = [] := by
  unfold Store.detectors
  rcases hr : s.store.get with e | _ | raw
  · rw [restore_unread hr]
    exact ⟨nofun, fun _ h => ⟨congrArg _ (Except.error.inj h), empty⟩⟩
  · rw [restore_empty hr]
    exact ⟨fun _ h => ⟨⟨none, rfl⟩, empty.trans (Except.ok.inj h)⟩, nofun⟩
  · cases hd : RuleSet.decode (Text.encode raw) with
    | error cause =>
        rw [restore_undecoded hr hd]
        simp only [hd]
        exact ⟨nofun, fun _ h => ⟨congrArg _ (Except.error.inj h), empty⟩⟩
    | ok rules =>
        simp only [hd]
        cases hc : RuleSet.compile rules with
        | error e =>
            rw [restore_refused hr hd hc]
            exact ⟨nofun, fun _ h => ⟨congrArg _ (Except.error.inj h), empty⟩⟩
        | ok ds =>
            obtain ⟨good, rfl⟩ := RuleSet.wellFormed_of_compile hc
            rw [restore_installed hr hd good]
            exact ⟨fun _ h => ⟨⟨_, rfl⟩, Except.ok.inj h⟩, nofun⟩

/-- A scan behind the start is a scan behind one restore, whose failure counts
only where it has not been made at the start. -/
theorem scan_start (fresh : Shared) (isEnabled : Bool)
    (files : Files) (path : String) :
    (fresh.start isEnabled).1.scan isEnabled files path =
      (match if isEnabled then .ok none else (fresh.install []).restore.1,
        files.read path with
        | .error e, _ => .error (.refresh e)
        | .ok _, .error fault => .error (.file fault.message)
        | .ok _, .ok content =>
            .ok ((fresh.install []).restore.2.1.verdict path content),
      (fresh.install []).restore.2.1) := by
  cases isEnabled with
  | true =>
      simp only [start, scan, if_true]
      cases files.read path <;> rfl
  | false =>
      simp only [start, scan, Bool.false_eq_true, if_false]
      cases (fresh.install []).restore.1 <;> cases files.read path <;> rfl

def verdictOf (ds : List Detector) (path : String)
    (content : List UInt8) : String :=
  path ++ ": " ++
    (if Detector.detectAny ds content then "match" else "no match") ++ " (" ++
    toString ds.length ++ " detectors)\n"

theorem verdictOf_nil (path : String) (content : List UInt8) :
    verdictOf [] path content = path ++ ": no match (0 detectors)\n" := by
  have rest : ": " ++ "no match" ++ " (" ++ toString 0 ++ " detectors)\n" =
      ": no match (0 detectors)\n" := by decide
  rw [← rest]
  simp [verdictOf, Detector.detectAny, String.append_assoc]

theorem verdict_eq {s : Shared} {ds : List Detector}
    (h : s.snapshot.detectors = ds) (path : String) (content : List UInt8) :
    s.verdict path content = verdictOf ds path content := by
  rw [verdict, Snapshot.detects, Snapshot.count, h]
  rfl

section

variable {fresh : Shared} (files : Files) (path : String)

/-- A scan that its restore does not end goes by the detectors that are in place
behind it. -/
theorem scan_of_loaded {isEnabled : Bool} {ds : List Detector}
    (goesOn : isEnabled = true ∨ ∃ n, (fresh.install []).restore.1 = .ok n)
    (loaded : (fresh.install []).restore.2.1.snapshot.detectors = ds) :
    ((fresh.start isEnabled).1.scan isEnabled files path).1 =
      match files.read path with
      | .ok content => .ok (verdictOf ds path content)
      | .error fault => .error (.file fault.message) := by
  -- What the restore at the start ends with is gone, so with the flag it does
  -- not end the scan.
  obtain ⟨n,
      restored⟩ :
        ∃ n, (if isEnabled then .ok none else (fresh.install []).restore.1) =
        Except.ok n := by
    rcases goesOn with rfl | ⟨n, restored⟩
    · exact ⟨none, rfl⟩
    · cases isEnabled with
      | true => exact ⟨none, rfl⟩
      | false => exact ⟨n, restored⟩
  rw [scan_start, restored]
  cases files.read path with
  | ok content => exact congrArg _ (verdict_eq loaded path content)
  | error fault => rfl

theorem scan_usable {ds : List Detector}
    (stored : fresh.store.detectors = .ok ds) (isEnabled : Bool) :
    ((fresh.start isEnabled).1.scan isEnabled files path).1 =
      match files.read path with
      | .ok content => .ok (verdictOf ds path content)
      | .error fault => .error (.file fault.message) := by
  obtain ⟨restored, loaded⟩ :=
    (restore_detectors (s := fresh.install []) rfl).1 ds stored
  exact scan_of_loaded files path (.inr restored) loaded

theorem scan_unusable {e : RefreshError}
    (stored : fresh.store.detectors = .error e) :
    ((fresh.start false).1.scan false files path).1 = .error (.refresh e) := by
  obtain ⟨failed, -⟩ :=
    (restore_detectors (s := fresh.install []) rfl).2 e stored
  rw [scan_start]
  simp [failed]

/-- Where the restore at the start has failed, a scan goes by no detectors. -/
theorem scan_blind {e : RefreshError}
    (stored : fresh.store.detectors = .error e) :
    ((fresh.start true).1.scan true files path).1 =
      match files.read path with
      | .ok content => .ok (verdictOf [] path content)
      | .error fault => .error (.file fault.message) := by
  obtain ⟨-, empty⟩ :=
    (restore_detectors (s := fresh.install []) rfl).2 e stored
  exact scan_of_loaded files path (.inl rfl) empty

end

end Shared

theorem Report.ofError_file (message : String) :
    ofError (.file message) =
      { code := 1, output := "ERROR I/O error: " ++ message ++ "\n" } := by
  have start : "ERROR I/O error: " = "ERROR " ++ "I/O error: " := by decide
  have whole : "ERROR I/O error: " ++ message =
      "ERROR " ++ ("I/O error: " ++ message) := by
    rw [start, String.append_assoc]
  rw [whole]
  rfl

namespace Surroundings

section

variable {w : Surroundings} {args : List String} {s : Settings} {l : Location}
  {db : Database} {path : String}

theorem run_scan (h : w.Finds args (.scan path) s l db) :
    w.run args =
      { Report.ofAnswer
          ((w.provider s db).scan (s.features.isEnabled detectionFlag)
            w.files path).1 with
        database := fileOf l (.database db) } := by
  have kept :
      ((w.provider s db).scan (s.features.isEnabled detectionFlag)
        w.files path).2.store =
      .database db := by
    rw [provider, Shared.scan_start]
    exact (Shared.restore_restore _).store_eq
  rw [run_of_finds h, carryOut, carryOut_report]
  simp only [kept]

/-- What a scan reports, by the detectors of the stored rules or what is wrong
with these, and by what has come of reading the file. -/
structure ScanReport (report : Report)
    (stored : Except RefreshError (List Detector)) (isEnabled : Bool)
    (file : Except FileFault (List UInt8)) (path : String)
    (database : Option (String × List UInt8)) : Prop where
  verdict : ∀ ds content, stored = .ok ds → file = .ok content →
    report = {
      code := 0
      output :=
        path ++ ": " ++
          (if Detector.detectAny ds content then "match" else "no match") ++
          " (" ++ toString ds.length ++ " detectors)\n"
      database }
  unreadable : ∀ ds fault, stored = .ok ds → file = .error fault →
    report =
      { code := 1,
        output := "ERROR I/O error: " ++ fault.message ++ "\n", database }
  unusable : ∀ e, stored = .error e → isEnabled = false →
    report =
      { code := 1,
        output := "ERROR Refresh error: " ++ e.message ++ "\n", database }
  /-- Rules that cannot be used count as none where the restore at the start was
  to take them. -/
  blind : ∀ e content, stored = .error e → isEnabled = true →
    file = .ok content →
    report =
      { code := 0, output := path ++ ": no match (0 detectors)\n", database }
  blindUnreadable : ∀ e fault, stored = .error e → isEnabled = true →
    file = .error fault →
    report =
      { code := 1,
        output := "ERROR I/O error: " ++ fault.message ++ "\n", database }

/-- Scans of the same rules and the same file report the same. Whether detectors
from rules are turned on makes a difference only where the rules cannot be
used. -/
theorem ScanReport.congr {r r' : Report}
    {stored : Except RefreshError (List Detector)} {isEnabled isEnabled' : Bool}
    {file : Except FileFault (List UInt8)}
    {database database' : Option (String × List UInt8)}
    (h : ScanReport r stored isEnabled file path database)
    (h' : ScanReport r' stored isEnabled' file path database')
    (same : (∃ ds, stored = .ok ds) ∨ isEnabled' = isEnabled) :
    r' = { r with database := database' } := by
  rcases hs : stored with e | ds
  · rcases same with ⟨ds, usable⟩ | rfl
    · rw [hs] at usable
      cases usable
    · cases isEnabled' with
      | false => rw [h.unusable e hs rfl, h'.unusable e hs rfl]
      | true =>
          rcases hf : file with fault | content
          · rw [h.blindUnreadable e fault hs rfl hf,
              h'.blindUnreadable e fault hs rfl hf]
          · rw [h.blind e content hs rfl hf, h'.blind e content hs rfl hf]
  · rcases hf : file with fault | content
    · rw [h.unreadable ds fault hs hf, h'.unreadable ds fault hs hf]
    · rw [h.verdict ds content hs hf, h'.verdict ds content hs hf]

theorem scanReport_run (h : w.Finds args (.scan path) s l db) :
    ScanReport (w.run args) (Store.database db).detectors
      (s.features.isEnabled detectionFlag) (w.files.read path) path
      (fileOf l (.database db)) := by
  have report := run_scan h
  rw [provider] at report
  refine ⟨fun ds content stored read => ?_, fun ds fault stored read => ?_,
    fun e stored off => ?_, fun e content stored on read => ?_,
    fun e fault stored on read => ?_⟩
  · rw [Shared.scan_usable w.files path stored] at report
    simpa only [read, Report.ofAnswer, Shared.verdictOf] using report
  · rw [Shared.scan_usable w.files path stored] at report
    simpa only [read, Report.ofAnswer, Report.ofError_file] using report
  · rw [off, Shared.scan_unusable w.files path stored] at report
    simpa only [Report.ofAnswer, Report.ofError_refresh] using report
  · rw [on, Shared.scan_blind w.files path stored] at report
    simpa only [read, Report.ofAnswer, Shared.verdictOf_nil] using report
  · rw [on, Shared.scan_blind w.files path stored] at report
    simpa only [read, Report.ofAnswer, Report.ofError_file] using report

/-- A scan reports on the stored rules: it goes by the detectors that they
compile to, leaves the database as it is and asks no network, and as long as the
rules can be used, nothing else in the settings makes a difference. -/
theorem scan_reports_stored_rules (h : w.Finds args (.scan path) s l db) :
    ScanReport (w.run args) (Store.database db).detectors
      (s.features.isEnabled detectionFlag)
        (w.files.read path) path (fileOf l (.database db)) ∧
      (∀ network, { w with network }.run args = w.run args) ∧
      ∀ w' args' s' l' db', Finds w' args' (.scan path) s' l' db' →
        (Store.database db').detectors = (Store.database db).detectors →
        w'.files.read path = w.files.read path →
        ((∃ ds, (Store.database db).detectors = .ok ds) ∨
          s'.features.isEnabled detectionFlag =
            s.features.isEnabled detectionFlag) →
        (w'.run args').code = (w.run args).code ∧
          (w'.run args').output = (w.run args).output := by
  have report := scanReport_run h
  refine ⟨report, fun network => ?_,
    fun w' args' s' l' db' h' stored read same => ?_⟩
  · have found : Finds { w with network } args (.scan path) s l db :=
      ⟨h.options, h.location, h.database⟩
    have report' := scanReport_run found
    rw [report.congr report' (.inr rfl), run_scan h]
  · have report' := scanReport_run h'
    rw [stored, read] at report'
    rw [report.congr report' same]
    exact ⟨rfl, rfl⟩

end

def usableTable : Table := [(.rules, ⟨.text (RuleSet.encode oneRule), ""⟩)]

theorem folder_finds_scan (t : Table) (flags : String) :
    (folder t [("FEATURE_TOGGLES", flags)] .isolated).Finds ["--scan", "f"]
      (.scan "f") (folderSettings flags)
      { file := "detectors.db", inMemory := false } { table := some t } :=
  folder_finds (o := { scan := some "f" }) rfl rfl rfl

theorem usable_rules_are_scanned_with_either_flag :
    (folder usableTable [("FEATURE_TOGGLES", "")] .isolated).run
      ["--scan", "f"] =
        { output := "f: match (1 detectors)\n"
          database := some ("detectors.db", usableTable.toFile) } ∧
      ((folder usableTable [("FEATURE_TOGGLES", detectionFlag)] .isolated).run
        ["--scan", "f"]).output = "f: match (1 detectors)\n" := by
  have stored : (Store.database { table := some usableTable }).detectors =
      .ok [.contains (Text.encode "x")] := by
    have read : (Store.database { table := some usableTable }).get =
        .ok (some (RuleSet.encode oneRule)) := rfl
    simp only [Store.detectors, read, RuleSet.decode_written]
    rfl
  obtain ⟨off, -, alike⟩ := scan_reports_stored_rules
    (folder_finds_scan usableTable "")
  have shown := off.verdict _ [0x78] stored rfl
  obtain ⟨-, output⟩ := alike _ _ _ _ _
    (folder_finds_scan usableTable detectionFlag) rfl rfl (.inl ⟨_, stored⟩)
  exact ⟨shown, output.trans (congrArg Report.output shown)⟩

/-- Rules that cannot be used end a scan, but where detectors from rules are
turned on, a verdict of none of them is shown. -/
theorem broken_rules_are_scanned_with_flag_on :
    (folder brokenTable [("FEATURE_TOGGLES", "")] .isolated).run
      ["--scan", "f"] =
        { code := 1
          output :=
            "ERROR Refresh error: decode stored rules: expected value at line 1 column 1\n"
          database := some ("detectors.db", brokenTable.toFile) } ∧
      (folder brokenTable [("FEATURE_TOGGLES", detectionFlag)] .isolated).run
        ["--scan", "f"] =
        { code := 0
          output := "f: no match (0 detectors)\n"
          database := some ("detectors.db", brokenTable.toFile) } := by
  have stored : (Store.database { table := some brokenTable }).detectors =
      .error (.decode ⟨.expectedValue, 1, 1⟩) := rfl
  have off := scanReport_run (folder_finds_scan brokenTable "")
  have on := scanReport_run (folder_finds_scan brokenTable detectionFlag)
  exact ⟨off.unusable _ stored (by decide),
    on.blind _ [0x78] stored isEnabled_detectionFlag rfl⟩

end Surroundings

end RuleWatch
