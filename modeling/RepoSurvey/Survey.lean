import RepoSurvey.Overview
import RepoSurvey.Scan.Walk
import RepoSurvey.Survey.Batch

/-!
# Surveys

From files to an overview: the files of a repository are chosen and read, or
given in memory; each is surveyed; the detectors look at all of them; and the
overview puts everything together. Progress is reported in percent of the
whole. A survey that is called off fails; when anything else goes wrong the
outcome is an empty overview with the reason, never a part of one.
-/

namespace RepoSurvey.Survey

/-- The part of the program that runs surveys. -/
def surveyPart : String := "pipeline"

/-! ## Progress -/

/-- A report in percent. -/
def percent (done : Nat) (text : String) : Report where
  done := done
  total := 100
  text := text

/-- The percentage reached when `done` of `total` steps of a phase are done. -/
def phasePercent (start span total done : Nat) : Nat :=
  start + done * span / total

/-- The report after a file was read. -/
def readReport (total done : Nat) (path : String) : Report :=
  percent (phasePercent 10 30 total done) ("Reading " ++ path)

/-- The report after a file was surveyed. -/
def analysedReport (total done : Nat) (path : String) : Report :=
  percent (phasePercent 40 30 total done) ("Analyzing " ++ path)

/-! ## Settings of one run -/

/-- What a run asks for in place of its configuration. -/
structure Overrides where
  /-- The extensions of source files. -/
  extensions : Option (List String) := none
  /-- Further patterns of paths that are left out. -/
  excludePaths : List String := []
  /-- Test files are left out. -/
  excludeTests : Option Bool := none
  /-- At most so many files are taken. -/
  limit : Option Int := none
  /-- Larger files count as empty; zero asks for nothing. -/
  maxFileSize : Option Int := none

/-- The settings with what a run asks for. -/
def Overrides.applyTo (o : Overrides) (s : ScanSettings) : ScanSettings where
  extensions := o.extensions.getD s.extensions
  excludePaths := s.excludePaths ++ o.excludePaths
  excludeTests := o.excludeTests.getD s.excludeTests
  limit := o.limit.or s.limit
  maxFileSize := (o.maxFileSize.filter (· != 0)).getD s.maxFileSize

/-! ## Surveying -/

/-- The outcome as that of a step that may fail. -/
def attempt {α : Type} (outcome : Except Failure α) : Attempt α :=
  match outcome with
  | .ok a => return a
  | .error failure => throw failure

/-- Surveys sources by path. -/
def surveySources (k : Components) (w : Watch) (sources : Table String) :
    Attempt (Table SurveyedFile) := do
  let files ← surveyFiles k w (analysedReport sources.length) sources
  let fallbacks := (files.filter fun (_, f) => f.usedFallback).length
  if fallbacks != 0 then
    note .info surveyPart
      (toString fallbacks ++ " of " ++ toString files.length ++ " files used a fallback parser")
  return files

/-- Reads the files at the given paths, of which some are done. -/
def readRest (w : Watch) (ws : Scan.Workspace) (settings : ScanSettings) (repository : String)
    (total done : Nat) : List String → Attempt (Table String)
  | [] => return []
  | path :: rest => do
    let (text, records) := Scan.readSource ws settings repository path
    record records
    announce w (readReport total (done + 1) path)
    let others ← readRest w ws settings repository total (done + 1) rest
    return (path, text) :: others

/-- Chooses, reads and surveys the files of a repository. -/
def surveyRepository (k : Components) (w : Watch) (settings : ScanSettings) (ws : Scan.Workspace)
    (repository : String) : Attempt (Table SurveyedFile) := do
  announce w (percent 0 "Discovering files...")
  let choice ← attempt (Scan.scan ws settings repository)
  record choice.records
  note .info surveyPart
    ("Discovered " ++ toString choice.paths.length ++ " files under " ++ repository)
  if choice.paths.isEmpty then return []
  checkCancelled w
  let sources ← readRest w ws settings repository choice.paths.length 0 choice.paths
  surveySources k w sources

/-! ## Detecting -/

/-- The records that a detector leaves of files that it leaves out. -/
def skipRecords (corpus : Corpus) : List Log.Record :=
  corpus.filterMap fun (path, a) =>
    match a.error with
    | some reason =>
      if reason.isEmpty then none
      else some ⟨.debug, Log.loggerName (some "patterns"), "Skipping " ++ path ++ ": " ++ reason⟩
    | none => none

/-- Detects the frameworks of a corpus. -/
def detectFrameworks (k : Components) (settings : DetectionSettings) (corpus : Corpus) :
    Attempt (List (FrameworkDetection Float)) := do
  let found ← attempt (k.frameworks settings corpus)
  let weighing := Detection.Framework.ofSettings settings
  record (skipRecords corpus ++
    Detection.Framework.records weighing Detection.Framework.profiles corpus)
  return found

/-- Detects something in the files of a corpus. -/
def detectIn {α : Type} (detect : Corpus → Except Failure α) (corpus : Corpus) : Attempt α := do
  let found ← attempt (detect corpus)
  record (skipRecords corpus)
  return found

/-- Detects, and makes the overview of surveyed files. -/
def makeOverview (k : Components) (w : Watch) (config : Config) (repository : String)
    (files : Table SurveyedFile) : Attempt Overview := do
  checkCancelled w
  announce w (percent 70 "Detecting patterns...")
  let corpus := corpusOf files
  let frameworks ← detectFrameworks k config.detection corpus
  let endpoints ← detectIn k.endpoints corpus
  let states ← detectIn k.states corpus
  let events ← detectIn k.events corpus
  note .info surveyPart
    ("Detected " ++ toString frameworks.length ++ " frameworks, " ++ toString endpoints.length ++
      " endpoints, " ++ toString states.length ++ " state patterns, " ++ toString events.length ++
      " event handlers")
  announce w (percent 90 "Aggregating results...")
  let overview := Overview.ofSurvey config.aggregation repository files frameworks
    { endpoints := endpoints, states := states, events := events }
  record overview.records
  announce w (percent 100 "Analysis complete")
  return overview

/-! ## Whole surveys -/

/-- The outcome of a survey: only being called off is a failure. -/
def settled (repository what : String) (survey : Attempt Overview) : Attempt Overview :=
  tryCatch survey fun
    | .cancelled => throw .cancelled
    | failure => do
      note .error surveyPart ("Analysis of " ++ what ++ " failed: " ++ failure.message)
      return Overview.empty repository (some failure.message)

/-- The overview of sources by path. -/
def ofSources (k : Components) (w : Watch) (config : Config) (repository : String)
    (sources : Table String) : Attempt Overview :=
  if sources.isEmpty then return Overview.empty repository none
  else settled repository "in-memory sources" do
    let files ← surveySources k w sources
    makeOverview k w config repository files

/-- The overview of a repository. -/
def ofRepository (k : Components) (w : Watch) (config : Config) (overrides : Overrides)
    (ws : Scan.Workspace) (repository : String) : Attempt Overview :=
  settled repository repository do
    let files ← surveyRepository k w (overrides.applyTo config.scan) ws repository
    if files.isEmpty then return Overview.empty repository none
    else makeOverview k w config repository files

/-! ## Single reports -/

/-- The reports that can be asked for. -/
inductive ReportKind where
  | frameworks | api | state | events
  deriving Repr, DecidableEq

/-- The kinds of reports by name. -/
def reportKinds : List (String × ReportKind) :=
  [("frameworks", .frameworks), ("api", .api), ("state", .state), ("events", .events)]

/-- The kind of report that a name stands for. -/
def reportKind (name : String) : Except Failure ReportKind :=
  match reportKinds.lookup name with
  | some kind => .ok kind
  | none => .error (.unknownReport name)

/-- The report of one detector on a corpus. -/
def report (k : Components) (settings : DetectionSettings) (kind : ReportKind) (corpus : Corpus) :
    Attempt Json := do
  let json ← match kind with
    | .frameworks => do
      let found ← detectFrameworks k settings corpus
      pure (Detection.Framework.reportOf Detection.Framework.profiles found corpus)
    | .api => do
      let found ← detectIn k.endpoints corpus
      pure (Detection.Route.reportOf found corpus)
    | .state => do
      let found ← detectIn k.states corpus
      pure (Detection.State.reportOf found corpus)
    | .events => do
      let found ← detectIn k.events corpus
      pure (Detection.Event.reportOf found corpus)
  record (skipRecords corpus)
  return json

/-! ## Configurations -/

/-- The configuration file that a path stands for, with its name: the path
itself, or the file of the usual name in the directory at the path. -/
def configFile? (ws : Scan.Workspace) (path : String) : Option (String × Scan.Entry) :=
  match ws.found? path with
  | some (.directory entries) =>
    ((Scan.Entry.directory entries).child? Config.fileName).map fun e => (Config.fileName, e)
  | _ => (ws.entry? path).map fun e => (Path.fileName path, e)

/-- The configuration that a path stands for; the name of its file comes with
an error. Without a file everything has its default. -/
def loadConfig (ws : Scan.Workspace) (path : String) (reader : Setting.Reader := Setting.ofYaml) :
    Except (String × ConfigError) Config :=
  match configFile? ws path with
  | none => .ok {}
  | some (name, .directory _) => .error (name, .directory)
  | some (name, .file bytes) =>
    match Config.ofBytes bytes reader with
    | .ok config => .ok config
    | .error e => .error (name, e)

/-- The configuration of the repository at a path; none is looked for unless
there is a directory. -/
def repositoryConfig (ws : Scan.Workspace) (path : String) : Except (String × ConfigError) Config :=
  match ws.found? path with
  | some (.directory _) => loadConfig ws path
  | _ => .ok {}

end RepoSurvey.Survey
