import RepoSurvey.Breakdown
import RepoSurvey.Command.Request
import RepoSurvey.Json.Layout

/-!
# Carrying out a command

What a command prints, what it leaves on the error output and in files, and
the status with which it ends, as values. The error output gets the log first
and then the message with which a command gives up. A command line that does
not follow the usage ends with status two, and one that cannot be carried out
with status one.
-/

namespace RepoSurvey.Command

/-! ## Outcomes -/

/-- What a command prints. -/
inductive Printed where
  | nothing
  | line (text : String)
  | value (j : Json)
  deriving Inhabited

/-- The text of what is printed. -/
def Printed.text : Printed → String
  | .nothing => ""
  | .line text => text ++ "\n"
  | .value j => j.text ++ "\n"

/-- What a command leaves in a file. -/
inductive Written where
  | value (j : Json)
  | log (lines : List String)
  deriving Inhabited

/-- The text of a written file. -/
def Written.text : Written → String
  | .value j => j.text ++ "\n"
  | .log lines => String.join (lines.map (· ++ "\n"))

/-- What a command comes to. -/
structure Outcome where
  /-- The status with which it ends. -/
  status : Nat := 0
  /-- What it prints. -/
  printed : Printed := .nothing
  /-- The records it leaves in the log. -/
  records : List Log.Record := []
  /-- The message on the error output, line by line. -/
  complaint : List String := []
  /-- The files it writes, by path. -/
  files : Table Written := []
  deriving Inhabited

/-- The outcome of a command that gives up with a message. -/
def Outcome.givesUp (complaint : List String) : Outcome where
  status := 1
  complaint := complaint

/-- The outcome of a command line that is not carried out. -/
def Stop.outcome : Stop → Outcome
  | .help => {}
  | .misuse => { status := 2 }

/-! ## Analysing -/

/-- The message with which an analysis gives up. -/
def analysisComplaint (error : Option String) : List String :=
  match error with
  | some reason =>
    if reason.isEmpty then []
    else ["codeintel analyze failed: " ++ reason, "Run with --verbose for more details."]
  | none => []

/-- Analyses a repository. -/
def analyze (ws : Scan.Workspace) (config : Config) (selection : Selection)
    (output : Option String) : Except Breakdown Outcome := do
  let (result, run) :=
    (Survey.ofRepository {} {} config selection.overrides ws selection.path).run.run {}
  let overview ← result.mapError Breakdown.survey
  let complaint := analysisComplaint overview.error
  let outcome : Outcome :=
    { status := if complaint.isEmpty then 0 else 1, records := run.records, complaint := complaint }
  match output with
  | none => return { outcome with printed := .value overview.toJson }
  | some path =>
    match ws.blocked? path with
    | some blocked => throw (.blocked blocked)
    | none =>
      let name := ws.seen path
      return { outcome with
        printed := .line ("Analysis written to " ++ name)
        files := [(name, .value overview.toJson)] }

/-! ## Reporting -/

/-- A failure of the file system while a report was made. -/
def isFileFailure : Failure → Bool
  | .missing _ | .notADirectory _ | .isADirectory _ => true
  | _ => false

/-- Makes the report of one kind. -/
def reportOn (ws : Scan.Workspace) (config : Config) (kind : Survey.ReportKind)
    (selection : Selection) : Survey.Attempt Json := do
  let settings := selection.overrides.applyTo config.scan
  let files ← Survey.surveyRepository {} {} settings ws selection.path
  Survey.report {} config.detection kind (corpusOf files)

/-- Reports on one aspect of a repository. -/
def report (ws : Scan.Workspace) (config : Config) (kind : Survey.ReportKind)
    (selection : Selection) : Except Breakdown Outcome :=
  match (reportOn ws config kind selection).run.run {} with
  | (.ok j, run) => return { printed := .value j, records := run.records }
  | (.error failure, run) =>
    if isFileFailure failure then
      return { Outcome.givesUp ["codeintel report failed: " ++ failure.message] with
        records := run.records }
    else throw (.survey failure)

/-! ## Commands -/

/-- Looks up the repository and its configuration before `act` goes to work. -/
def onRepository (ws : Scan.Workspace) (selection : Selection)
    (act : Config → Except Breakdown Outcome) : Except Breakdown Outcome :=
  match ws.found? selection.path with
  | none => .ok (.givesUp [Failure.message (.missing selection.path)])
  | some (.file _) => .ok (.givesUp [Failure.message (.notADirectory selection.path)])
  | some (.directory _) =>
    match Survey.loadConfig ws (selection.config.getD selection.path) with
    | .ok config => act config
    | .error (name, e) =>
      match Config.errorMessage? name e with
      | some message => .ok (.givesUp ["Invalid configuration: " ++ message])
      | none => .error (.config name e)

/-- Carries out a task. -/
def perform (ws : Scan.Workspace) : Task → Except Breakdown Outcome
  | .analyze selection output =>
    onRepository ws selection fun config => analyze ws config selection output
  | .report kind selection =>
    onRepository ws selection fun config => report ws config kind selection
  | .serve =>
    .ok (.givesUp
      ["uvicorn is required to run the service. Install it with \x60pip install uvicorn\x60."])

/-- The lines that a log file already has. -/
def earlierLines (ws : Scan.Workspace) (path : String) : List String :=
  match ws.entry? path with
  | some (.file bytes) => Text.fileLines (Text.decodeLenient bytes)
  | _ => []

/-- The outcome with the log file that it leaves, unless a result takes its place. -/
def Outcome.withLog (o : Outcome) (ws : Scan.Workspace) (path : String) : Outcome :=
  let lines := earlierLines ws path ++ Log.fileLines o.records
  { o with files := Table.setNew o.files (ws.seen path) (.log lines) }

/-- What goes to the error output. -/
def Outcome.errorLines (o : Outcome) (v : Log.Verbosity) : List String :=
  (v.consoleLines o.records ++ o.complaint).flatMap Text.fileLines

/-- Carries out a command line in a working directory; gives the outcome and
the lines on the error output. -/
def run (ws : Scan.Workspace) (words : List String) :
    Except Breakdown (Outcome × List String) := do
  match Request.ofWords words with
  | .error stop => return (stop.outcome, [])
  | .ok request =>
    let v := request.verbosity
    match v.file with
    | none =>
      let outcome ← perform ws request.task
      return (outcome, outcome.errorLines v)
    | some path =>
      let ws ← (ws.prepare path).mapError Breakdown.blocked
      let outcome ← perform ws request.task
      return (outcome.withLog ws path, outcome.errorLines v)

end RepoSurvey.Command
