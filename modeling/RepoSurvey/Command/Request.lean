import RepoSurvey.Command.Reading
import RepoSurvey.Survey

/-!
# Requests

The three commands of the program, each with its usage: to analyse a
repository, to report on one of its aspects, and to serve. How much is logged
can be said before the name of the command or after it, and what is said after
it wins.
-/

namespace RepoSurvey.Command

/-! ## Usages -/

/-- The switches that every command has. -/
def loggingSwitches : List Switch := [
  { spellings := ["-h", "--help"], name := "help", isHelp := true },
  { spellings := ["-v", "--verbose"], name := "verbose" },
  { spellings := ["-q", "--quiet"], name := "quiet" },
  { spellings := ["--log-file"], name := "log file", span := .one }]

/-- The switches that say what of a repository is looked at. -/
def selectionSwitches : List Switch := [
  { spellings := ["--ext"], name := "extensions", span := .several },
  { spellings := ["--limit"], name := "limit", span := .one, demand := .integer },
  { spellings := ["--include-tests"], name := "include tests" },
  { spellings := ["--max-file-size"], name := "max file size", span := .one, demand := .integer },
  { spellings := ["--config"], name := "config", span := .one }]

/-- The place for the path of a repository. -/
def pathPlace : Place := { name := "path", span := .atMostOne }

/-- The usage of the program as a whole: a command, and what belongs to it. -/
def programUsage : Usage where
  switches := loggingSwitches
  places := [{ name := "command", span := .rest, demand := .oneOf ["analyze", "report", "serve"] }]

/-- The usage of the command that analyses a repository. -/
def analyzeUsage : Usage where
  switches := loggingSwitches ++ selectionSwitches ++
    [{ spellings := ["--output", "-o"], name := "output", span := .one }]
  places := [pathPlace]

/-- The usage of the command that reports on one aspect of a repository. -/
def reportUsage : Usage where
  switches := loggingSwitches ++ selectionSwitches
  places := [
    { name := "kind", span := .one, demand := .oneOf (Survey.reportKinds.map (·.1)) },
    pathPlace]

/-- The usage of the command that serves. -/
def serveUsage : Usage where
  switches := loggingSwitches ++ [
    { spellings := ["--host"], name := "host", span := .one },
    { spellings := ["--port"], name := "port", span := .one, demand := .integer }]
  places := []

/-! ## What was given -/

/-- The word given under a name. -/
def Reading.word? (r : Reading) (name : String) : Option String :=
  (Table.get? r.given name).bind List.head?

/-- The integer given under a name. -/
def Reading.integer? (r : Reading) (name : String) : Option Int :=
  (r.word? name).bind fun word => Decimal.integer? 10 word.toList

/-- The switch of a name was given. -/
def Reading.has (r : Reading) (name : String) : Bool :=
  Table.has r.given name

/-! ## Requests -/

/-- Which repository is looked at, and what of it. -/
structure Selection where
  /-- The path of the repository. -/
  path : String
  /-- What takes the place of its configuration. -/
  overrides : Survey.Overrides
  /-- The configuration file, or the directory where it lies. -/
  config : Option String

/-- What is to be done. -/
inductive Task where
  /-- To analyse a repository, and to write the result to a file if one is named. -/
  | analyze (selection : Selection) (output : Option String)
  /-- To report on one aspect of a repository. -/
  | report (kind : Survey.ReportKind) (selection : Selection)
  /-- To serve. -/
  | serve

/-- A command line that was understood. -/
structure Request where
  /-- What is logged. -/
  verbosity : Log.Verbosity
  /-- What is to be done. -/
  task : Task

/-- The selection that was read. -/
def Reading.selection (r : Reading) : Selection where
  path := (r.word? "path").getD "."
  overrides := {
    extensions := Table.get? r.given "extensions"
    excludeTests := if r.has "include tests" then some false else none
    limit := r.integer? "limit"
    maxFileSize := r.integer? "max file size" }
  config := r.word? "config"

/-- The verbosity that was read, where `outer` stands before the command. -/
def Reading.verbosity (r outer : Reading) : Log.Verbosity where
  verbose := outer.has "verbose" || r.has "verbose"
  quiet := outer.has "quiet" || r.has "quiet"
  file := (r.word? "log file").or (outer.word? "log file")

/-- The usage of a command and the task that it reads. -/
def commandOf (name : String) : Usage × (Reading → Task) :=
  if name == "analyze" then (analyzeUsage, fun r => .analyze r.selection (r.word? "output"))
  else if name == "report" then
    (reportUsage, fun r =>
      let kind? := (r.word? "kind").bind fun word => Survey.reportKinds.lookup word
      .report (kind?.getD .frameworks) r.selection)
  else (serveUsage, fun _ => .serve)

/-- The request that a command line makes. -/
def Request.ofWords (words : List String) : Except Stop Request := do
  let outer ← programUsage.read words
  match Table.get? outer.given "command" with
  | some (name :: behind) => do
    let (usage, task) := commandOf name
    let r ← usage.read behind
    if !(outer.leftOver ++ r.leftOver).isEmpty then throw .misuse
    return { verbosity := r.verbosity outer, task := task r }
  | _ => throw .misuse

end RepoSurvey.Command
