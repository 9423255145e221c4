import RepoSurvey.Table
import RepoSurvey.Text.Cut

/-!
# Log records

A record has a level, the part of the program that wrote it, and a message.
Records go to a console, which shows those of its level and above, and to a
file when one is asked for, which keeps all of them.
-/

namespace RepoSurvey.Log

/-- How grave a record is. -/
inductive Level where
  | debug | info | warning | error | critical
  deriving Repr, DecidableEq

/-- The number of a level; graver levels have greater numbers. -/
def Level.rank : Level → Nat
  | .debug => 10
  | .info => 20
  | .warning => 30
  | .error => 40
  | .critical => 50

/-- The name of a level. -/
def Level.name : Level → String
  | .debug => "DEBUG"
  | .info => "INFO"
  | .warning => "WARNING"
  | .error => "ERROR"
  | .critical => "CRITICAL"

/-- A record of level `a` is shown where `b` is asked for. -/
def Level.atLeast (a b : Level) : Bool :=
  b.rank ≤ a.rank

/-- The name that all loggers begin with. -/
def rootName : String := "codeintel"

/-- The full name of a logger. -/
def loggerName (part : Option String) : String :=
  match part with
  | some name => if name.isEmpty then rootName else rootName ++ "." ++ name
  | none => rootName

/-- A record. -/
structure Record where
  /-- How grave it is. -/
  level : Level
  /-- The full name of the logger. -/
  source : String
  /-- What it says. -/
  message : String
  deriving Repr, DecidableEq

/-- The record as the console shows it. -/
def Record.consoleText (r : Record) : String :=
  "[" ++ rootName ++ "] " ++ r.level.name ++ " " ++ r.message

/-- The record as a file keeps it, without the time in front. -/
def Record.fileText (r : Record) : String :=
  r.level.name ++ " " ++ r.source ++ ": " ++ r.message

/-! ## Where records go -/

/-- What is asked of the logs. -/
structure Verbosity where
  /-- Show everything; this wins. -/
  verbose : Bool := false
  /-- Show warnings and what is graver. -/
  quiet : Bool := false
  /-- The file that keeps everything. -/
  file : Option String := none
  deriving Repr

/-- The level of the console. -/
def Verbosity.consoleLevel (v : Verbosity) : Level :=
  if v.verbose then .debug else if v.quiet then .warning else .info

/-- The level of the logger as a whole. -/
def Verbosity.loggerLevel (v : Verbosity) : Level :=
  if v.file.isSome then .debug else v.consoleLevel

/-- The levels of the console and, when there is one, of the file. -/
def Verbosity.handlerLevels (v : Verbosity) : List Level :=
  v.consoleLevel :: (if v.file.isSome then [.debug] else [])

/-- The lines that records leave on the console. -/
def Verbosity.consoleLines (v : Verbosity) (records : List Record) : List String :=
  (records.filter fun r => r.level.atLeast v.consoleLevel).map Record.consoleText

/-- The lines that records leave in the file. -/
def fileLines (records : List Record) : List String :=
  records.map Record.fileText

/-- The verbosity in force and the records in each file. -/
structure Journal where
  /-- What was asked for last. -/
  verbosity : Verbosity := {}
  /-- The records by file. -/
  files : Table (List Record) := []

/-- Changes what is asked of the logs. A file that is new is empty. -/
def Journal.configure (j : Journal) (v : Verbosity) : Journal :=
  match v.file with
  | some name => { verbosity := v, files := j.files.extend name [] }
  | none => { j with verbosity := v }

/-- Writes a record, and gives the lines it leaves on the console. -/
def Journal.write (j : Journal) (r : Record) : Journal × List String :=
  (match j.verbosity.file with
    | some name => { j with files := j.files.extend name [r] }
    | none => j,
    j.verbosity.consoleLines [r])

end RepoSurvey.Log
