import RepoSurvey.Analysis.Surveyed
import RepoSurvey.Analysis.Metrics
import RepoSurvey.Detection.Event
import RepoSurvey.Detection.Framework
import RepoSurvey.Detection.Route
import RepoSurvey.Detection.State
import RepoSurvey.JavaScript.Parse
import RepoSurvey.Language
import RepoSurvey.Python.Parse
import RepoSurvey.Survey.Structural

/-!
# Sessions

A survey is made of components: what detects languages, what parses and what
detects. Each may fail, and what happens then does not depend on which of them
it is made of. A session lasts over many files; all it keeps is the structural
parser, which is set up once.

What a survey does is a computation over `Run`: the session, the records it
has left, and the reports of progress it has made. An `Act` cannot fail, and
the outcome of an `Attempt` may be a failure; what happened before is kept.
-/

namespace RepoSurvey.Survey

/-! ## Components -/

/-- The analysis of a source in JavaScript or TypeScript. -/
def parseScript (content path : String) : Except Failure FileAnalysis :=
  match JavaScript.parse content path with
  | .ok a => .ok a
  | .error e => .error (.unparsable Tier.regex.name e.message)

/-- The analysis of a source in Python. What is wrong with a source that is
rejected is left out of the text. -/
def parsePython (content path : String) : Except Failure FileAnalysis :=
  match Python.parse content path with
  | .ok a => .ok a
  | .error .rejected => .error (.unparsable Tier.python.name "Python parsing failed")
  | .error (.unwritable e) => .error (.unwritable e.message)

/-- What a survey is made of. -/
structure Components where
  /-- The library of grammars. -/
  library : GrammarLibrary := {}
  /-- Opens the library of grammars. -/
  openLibrary : Except Failure Unit := .ok ()
  /-- The language of a path and a content. -/
  detectLanguage : String → String → Except Failure String :=
    fun path content => .ok (Language.detect path (some content))
  /-- The parser of JavaScript and TypeScript, given a content and a path. -/
  script : String → String → Except Failure FileAnalysis := parseScript
  /-- The parser of Python, given a content and a path. -/
  python : String → String → Except Failure FileAnalysis := parsePython
  /-- The structural parser, given a language, a content and a path. -/
  structural : String → String → String → Except Failure FileAnalysis := library.analyse
  /-- Agrees to the analysis of the file at a path. -/
  admitFile : String → Except Failure Unit := fun _ => .ok ()
  /-- The frameworks of a corpus. -/
  frameworks : DetectionSettings → Corpus → Except Failure (List (FrameworkDetection Float)) :=
    fun settings corpus =>
      Detection.Framework.detect (Detection.Framework.ofSettings settings)
        Detection.Framework.profiles corpus
  /-- The routes of a corpus. -/
  endpoints : Corpus → Except Failure (List Endpoint) := Detection.Route.detect
  /-- The state changes of a corpus. -/
  states : Corpus → Except Failure (List StateChange) :=
    fun corpus => .ok (Detection.State.detect corpus)
  /-- The events of a corpus. -/
  events : Corpus → Except Failure (List EventRecord) :=
    fun corpus => .ok (Detection.Event.detect corpus)

/-! ## Runs -/

/-- What lasts from file to file. -/
structure Session where
  /-- The structural parser was set up, or could not be. -/
  initialized : Bool := false
  /-- The structural parser. -/
  structural : Option StructuralParser := none
  deriving Repr, DecidableEq

/-- A report of progress. -/
structure Report where
  /-- How much is done. -/
  done : Nat
  /-- Of how much. -/
  total : Nat
  /-- What was done last. -/
  text : String
  deriving Repr, DecidableEq

/-- What a survey changes. -/
structure Run where
  /-- What lasts from file to file. -/
  session : Session := {}
  /-- The records it has left, in order. -/
  records : List Log.Record := []
  /-- The reports it has made, in order. -/
  reports : List Report := []

/-- A computation that cannot fail. -/
abbrev Act := StateM Run

/-- A computation that may fail. -/
abbrev Attempt := ExceptT Failure Act

/-- Leaves records. -/
def record (records : List Log.Record) : Act Unit :=
  modify fun r => { r with records := r.records ++ records }

/-- Leaves one record, from a part of the program. -/
def note (level : Log.Level) (part message : String) : Act Unit :=
  record [⟨level, Log.loggerName (some part), message⟩]

/-- The part of the program that chooses parsers. -/
def coordinatorPart : String := "coordinator"

/-! ## Setting up -/

/-- The session with its structural parser set up. -/
def Session.opened (s : Session) (k : Components) : Session :=
  if s.initialized then s
  else match k.openLibrary with
    | .ok () => { initialized := true, structural := some { enabled := k.library.available } }
    | .error _ => { initialized := true, structural := none }

/-- The records that setting up leaves. -/
def Session.openRecords (s : Session) (k : Components) : List Log.Record :=
  if s.initialized then []
  else match k.openLibrary with
    | .ok () =>
      if k.library.available then []
      else [⟨.info, Log.loggerName (some coordinatorPart),
        "Structural parser unavailable; tree-sitter tier disabled"⟩]
    | .error failure =>
      [⟨.warning, Log.loggerName (some coordinatorPart),
        "Failed to initialise structural parser: " ++ failure.message⟩]

/-- Sets the session up, once. -/
def openSession (k : Components) : Act Unit :=
  modify fun r => { r with
    session := r.session.opened k
    records := r.records ++ r.session.openRecords k }

/-- Asks the structural parser whether it has a grammar for a language. -/
def hasParser (k : Components) (language : String) : Act Bool := do
  match (← get).session.structural with
  | none => return false
  | some p =>
    modify fun r => { r with
      session := { r.session with structural := some (p.prepared k.library language) }
      records := r.records ++ p.askRecords k.library language }
    return p.has k.library language

/-! ## Statistics -/

/-- The languages, among those given, for which the structural parser has a grammar. -/
def structuralLanguages (k : Components) : List String → Act (List String)
  | [] => return []
  | language :: rest => do
    let found ← hasParser k language
    let others ← structuralLanguages k rest
    return if found then language :: others else others

/-- What a session can do. -/
def statistics (k : Components) : Act Json := do
  let s := (← get).session
  let available := s.structural.any fun p => p.isAvailable k.library
  let languages ← if available then structuralLanguages k Outline.languages else pure []
  return .obj [
    ("initialized", .bool s.initialized),
    ("structural_parser_available", .bool available),
    ("supported_languages", .obj [
      ("regex", Json.strings ["javascript", "typescript"]),
      ("python", Json.strings ["python"]),
      ("tree_sitter", Json.strings languages)])]

end RepoSurvey.Survey
