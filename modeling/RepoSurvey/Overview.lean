import RepoSurvey.Analysis.Surveyed
import RepoSurvey.Config
import RepoSurvey.Detection.Framework
import RepoSurvey.Log
import RepoSurvey.Overview.Cycle

/-!
# The overview of a repository

Surveyed files and findings put together: the files by folder with what was
found in each, the sums over all files, the import graph and its cycles. An
overview can also be empty, with the reason why.
-/

namespace RepoSurvey

/-- A file in an overview: its analysis and what was found in it. -/
structure FileReport where
  /-- The analysis. -/
  analysis : FileAnalysis
  /-- What was found. -/
  findings : Findings
  deriving Inhabited

/-- The sums over all files. -/
structure Summary where
  /-- The number of files. -/
  totalFiles : Nat := 0
  /-- The number of lines, as far as it is known. -/
  totalLines : Int := 0
  /-- The number of files by language. -/
  languages : Table Nat := []
  /-- The number of files by extension. -/
  extensions : Table Nat := []
  /-- The confidence in each framework, when frameworks are asked for and there are some. -/
  frameworks : Option (Table Float) := none

/-- What is known about a repository as a whole. -/
structure Overview where
  /-- The files by folder. -/
  folders : Table (List FileReport) := []
  /-- The sums. -/
  summary : Summary := {}
  /-- The import graph. -/
  dependencies : Overview.ImportGraph := []
  /-- The cycles of the import graph. -/
  cycles : List (List String) := []
  /-- The path of the repository as it was given. -/
  repository : String
  /-- Why there is nothing in the overview. -/
  error : Option String := none

namespace Overview

/-! ## Files -/

/-- What was found in the file at a path. -/
def findingsIn (all : Findings) (path : String) : Findings where
  endpoints := all.endpoints.filter fun e => e.file == path
  states := all.states.filter fun s => s.file == path
  events := all.events.filter fun e => e.file == path

/-- The name of the folder for files that lie in no directory. -/
def rootFolder : String := "root"

/-- The folder of a path; backslashes count as slashes. -/
def folderOf (path : String) : String :=
  let folder := Path.directory (Text.replace '\\' "/" path)
  if folder.isEmpty then rootFolder else folder

/-- The files in one folder, in order of path. -/
def filesIn (files : Table FileReport) (folder : String) : List FileReport :=
  (Table.sorted (files.filter fun (path, _) => folderOf path == folder)).values

/-- The files by folder, folders in order of name. -/
def byFolder (files : Table FileReport) : Table (List FileReport) :=
  let folders := (distinct (files.map fun (path, _) => folderOf path)).mergeSort
    fun a b => decide (a ≤ b)
  folders.map fun folder => (folder, filesIn files folder)

/-! ## Sums -/

/-- The extension of a path in lower case. -/
def extensionOf (path : String) : String :=
  Text.lower (Path.extension path)

/-- How often each label occurs that is not empty. -/
def tallyPresent (labels : List String) : Table Nat :=
  Table.tally (labels.filter fun label => !label.isEmpty)

/-- The sums over a corpus. -/
def summarize (corpus : Corpus) (frameworks : List (FrameworkDetection Float)) : Summary where
  totalFiles := corpus.length
  totalLines := corpus.foldr (fun (_, a) n => a.lines.getD 0 + n) 0
  languages := tallyPresent (corpus.map fun (_, a) => a.language)
  extensions := tallyPresent (corpus.keys.map extensionOf)
  frameworks :=
    if frameworks.isEmpty then none else some (Detection.Framework.confidences frameworks)

/-! ## Making overviews -/

/-- The overview of surveyed files with what was found in them. -/
def ofSurvey (settings : AggregationSettings) (repository : String) (files : Table SurveyedFile)
    (frameworks : List (FrameworkDetection Float)) (all : Findings) : Overview :=
  let corpus := corpusOf files
  let graph := importGraph corpus
  { folders := byFolder (corpus.map fun (path, a) => (path, ⟨a, findingsIn all path⟩))
    summary := summarize corpus (if settings.includeFrameworks then frameworks else [])
    dependencies := graph
    cycles := if settings.detectCycles then graph.cycles settings.maxCycleDepth else []
    repository := repository }

/-- An overview with nothing in it, with the reason if there is one. -/
def empty (repository : String) (error : Option String) : Overview where
  repository := repository
  error := error

/-- The records that making an overview leaves. -/
def records (o : Overview) : List Log.Record :=
  if o.cycles.isEmpty then []
  else [⟨.info, Log.loggerName (some "aggregator"),
    "Detected " ++ toString o.cycles.length ++ " circular dependencies"⟩]

/-! ## Output -/

/-- A file of an overview as JSON. -/
def fileJson (f : FileReport) : Json :=
  .obj (f.analysis.fields ++ f.findings.fields)

/-- The sums as JSON. -/
def summaryJson (s : Summary) : Json :=
  .obj (Json.dropNulls [
    ("total_files", .nat s.totalFiles),
    ("total_lines", .int s.totalLines),
    ("languages", Json.table .nat s.languages),
    ("extensions", Json.table .nat s.extensions),
    ("frameworks", Json.ofOption (Json.table .real) s.frameworks)])

/-- The version of the engine. -/
def engineVersion : String := "0.1.0"

/-- What an overview says about how it was made. -/
def metadataJson (o : Overview) : Json :=
  .obj (Json.dropNulls [
    ("engine_version", .str engineVersion),
    ("repository_path", .str o.repository),
    ("error", Json.ofOption .str o.error)])

/-- An overview as JSON. -/
def toJson (o : Overview) : Json :=
  .obj [
    ("folder_structure", Json.table (fun files => .arr (files.map fileJson)) o.folders),
    ("summary", summaryJson o.summary),
    ("dependencies", Json.table Json.strings o.dependencies),
    ("circular_dependencies", .arr (o.cycles.map Json.strings)),
    ("metadata", o.metadataJson)]

/-! ## Statistics -/

/-- The paths of the files in an overview. -/
def paths (o : Overview) : List String :=
  o.folders.flatMap fun (_, files) => files.map fun f => f.analysis.path

/-- Every dependency, as often as a file has it. -/
def allDependencies (o : Overview) : List String :=
  o.dependencies.flatMap fun (_, dependencies) => dependencies

/-- The dependencies that lie in the repository. -/
def internalDependencies (o : Overview) : List String :=
  let paths := o.paths
  o.allDependencies.filter fun d => Table.has o.dependencies d || paths.contains d

/-- The statistics of an overview as JSON. -/
def statistics (o : Overview) : Json :=
  let total := o.allDependencies.length
  let internal := o.internalDependencies.length
  .obj [
    ("aggregation", .obj [
      ("folder_count", .nat o.folders.length),
      ("file_count", .nat o.summary.totalFiles),
      ("language_count", .nat o.summary.languages.length),
      ("dependency_count", .nat o.dependencies.length),
      ("total_dependencies", .nat total),
      ("internal_dependencies", .nat internal),
      ("external_dependencies", .nat (total - internal)),
      ("circular_dependencies", .nat o.cycles.length)]),
    ("summary", summaryJson o.summary),
    ("metadata", o.metadataJson)]

end Overview

end RepoSurvey
