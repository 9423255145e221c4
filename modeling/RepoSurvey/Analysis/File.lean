import RepoSurvey.Json
import RepoSurvey.Table
import RepoSurvey.Text.Blank
import RepoSurvey.Text.Cut

/-!
# What is known about a file

A `FileAnalysis` is what a parser learns from one source file, in the same
shape for every language: its imports, its functions, its classes with their
methods, and the raw signals found at its top level. Parsers make these
values; detectors and the aggregation only read them.

A raw signal is a *tag*, a short text such as `setCount(`, or a *route hint*,
a loose JSON object. Whoever finds a signal writes it into the callable it
belongs to, and `Callable.lineFor` answers where it was found.
-/

namespace RepoSurvey

/-- A decorator with the text of its arguments. -/
structure Decorator where
  /-- The dotted name after the at sign. -/
  name : String
  /-- The arguments in order. -/
  arguments : List String := []
  deriving Inhabited

/-- A function, a method, or the top level of a file. -/
structure Callable where
  /-- The line of its definition. -/
  line : Int := 0
  /-- Its documentation, cleaned of indentation. -/
  docstring : String := ""
  /-- Its parameters in order. -/
  parameters : List String := []
  /-- Tags of state changes, in order of discovery. -/
  stateTags : List String := []
  /-- Tags of event handlers, in order of discovery. -/
  eventTags : List String := []
  /-- Route hints, in order of discovery. -/
  routeHints : List Json := []
  /-- Its decorators from the top down. -/
  decorators : List Decorator := []
  /-- It looks like a user-interface component. -/
  isComponent : Bool := false
  /-- It looks like a hook. -/
  isHook : Bool := false
  /-- It is asynchronous. -/
  isAsync : Bool := false
  /-- The line on which each tag was found. -/
  tagLines : Table Int := []
  deriving Inhabited

/-- The line on which `tag` was found, or else the line of the callable. -/
def Callable.lineFor (f : Callable) (tag : String) : Int :=
  (f.tagLines.get? tag).getD f.line

/-- A class with its methods. -/
structure ClassDef where
  /-- The line of its definition. -/
  line : Int := 0
  /-- Its documentation, cleaned of indentation. -/
  docstring : String := ""
  /-- Its methods by signature. -/
  methods : Table Callable := []
  /-- The names of its base classes. -/
  bases : List String := []
  /-- Its decorators from the top down. -/
  decorators : List Decorator := []
  /-- It looks like a user-interface component. -/
  isComponent : Bool := false
  deriving Inhabited

/-- The language of a file that could not be placed. -/
def unknownLanguage : String := "unknown"

/-- What a parser learns from one file. -/
structure FileAnalysis where
  /-- The path of the file. -/
  path : String
  /-- The language it was read as. -/
  language : String := unknownLanguage
  /-- Imported names by module. -/
  imports : Table (List String) := []
  /-- Functions by signature. -/
  functions : Table Callable := []
  /-- Classes by name. -/
  classes : Table ClassDef := []
  /-- The top level, when it carries signals. -/
  moduleScope : Option Callable := none
  /-- The number of lines. -/
  lines : Option Int := none
  /-- The number of characters. -/
  characters : Option Int := none
  /-- The number of lines that are not blank. -/
  nonEmptyLines : Option Int := none
  /-- The mean length of a line. -/
  averageLineLength : Option Float := none
  /-- Why the file could not be analysed. -/
  error : Option String := none
  deriving Inhabited

/-- The signature under which a callable is kept. -/
def signatureOf (name : String) (parameters : List String) : String :=
  name ++ "(" ++ Text.join ", " parameters ++ ")"

/-- The bare name in a signature. -/
def signatureName (signature : String) : String :=
  Text.trim (Text.beforeFirst '(' signature)

/-- A file whose analysis carries an error text is left out by every detector. -/
def FileAnalysis.isUsable (a : FileAnalysis) : Bool :=
  match a.error with
  | some text => text.isEmpty
  | none => true

/-- The analyses of a set of files by path. -/
abbrev Corpus := Table FileAnalysis

/-- The files that detectors look at. -/
def Corpus.usable (corpus : Corpus) : Corpus :=
  corpus.filter fun entry => entry.2.isUsable

end RepoSurvey
