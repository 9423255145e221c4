import RepoSurvey.Config
import RepoSurvey.Failure
import RepoSurvey.Log
import RepoSurvey.Scan.Placing
import RepoSurvey.Scan.Rule
import RepoSurvey.Scan.TestFile
import RepoSurvey.Text.Decoding

/-!
# Choosing the files of a repository

A walk through a directory tree: the files of a directory in order of name,
then its subdirectories in order of name. Directories of tools and of built
files are never entered, and neither are ignored ones. Of the files on the way
those are chosen that have one of the extensions and are no tests.
-/

namespace RepoSurvey.Scan

/-! ## The walk -/

/-- Directories that are never entered. -/
def excludedDirectories : List String :=
  [".git", ".hg", ".svn", ".venv", "venv", "node_modules", "bower_components", "__pycache__",
    ".pytest_cache", ".mypy_cache", ".tox", ".idea", ".vscode", ".next", ".dart_tool", "dist",
    "build"]

/-- Files that are never looked at. -/
def excludedFiles : List String :=
  [".DS_Store", "Thumbs.db"]

/-- The path of an entry of the directory at `folder`. -/
def childPath (folder name : String) : String :=
  if folder.isEmpty then name else folder ++ "/" ++ name

/-- A directory of this name and path is entered. -/
def entersDirectory (rules : List IgnoreRule) (name path : String) : Bool :=
  !excludedDirectories.contains name && !isIgnored rules path true

/-- A file of this name and path is looked at. -/
def admitsFile (rules : List IgnoreRule) (name path : String) : Bool :=
  !excludedFiles.contains name && !isIgnored rules path false

/-- What a walk finds under one name: a file, or the files below a directory. -/
inductive Found where
  | file
  | below (paths : List String)

/-- The paths found in a directory: its files, then what is below its
subdirectories, each group in order of name. -/
def foundPaths (folder : String) (found : Table Found) : List String :=
  let ordered := found.sorted
  let files := ordered.filterMap fun
    | (name, .file) => some (childPath folder name)
    | (_, .below _) => none
  let deeper := ordered.flatMap fun
    | (_, .file) => []
    | (_, .below paths) => paths
  files ++ deeper

mutual

/-- The paths of the files that a walk from `folder` comes to. -/
def Entry.walk (rules : List IgnoreRule) (folder : String) : Entry → List String
  | .file _ => []
  | .directory entries => foundPaths folder (walkEntries rules folder entries)

/-- What a walk finds among the entries of the directory at `folder`. -/
def walkEntries (rules : List IgnoreRule) (folder : String) : List (String × Entry) → Table Found
  | [] => []
  | (name, .file _) :: rest =>
    let others := walkEntries rules folder rest
    if admitsFile rules name (childPath folder name) then (name, .file) :: others else others
  | (name, .directory inner) :: rest =>
    let others := walkEntries rules folder rest
    let path := childPath folder name
    if entersDirectory rules name path then
      (name, .below (Entry.walk rules path (.directory inner))) :: others
    else others

end

/-! ## The choice -/

/-- The path has one of the extensions, whatever its case. No extensions ask for nothing. -/
def hasExtension (extensions : List String) (path : String) : Bool :=
  extensions.isEmpty ||
    extensions.any fun extension => Text.endsWith (Text.lower path) (Text.lower extension)

/-- The file is chosen. -/
def isChosen (settings : ScanSettings) (path : String) : Bool :=
  hasExtension settings.extensions path && !(settings.excludeTests && isTestFile path)

/-- The file is left out only because it is a test. -/
def isSkippedTest (settings : ScanSettings) (path : String) : Bool :=
  hasExtension settings.extensions path && settings.excludeTests && isTestFile path

/-- The paths up to the limit. A limit below zero is none. -/
def upTo (limit : Option Int) (paths : List String) : List String :=
  match limit with
  | some n => if 0 ≤ n then paths.take n.toNat else paths
  | none => paths

/-- The directory that a path names. -/
def repositoryAt (w : Workspace) (path : String) : Except Failure Entry :=
  match w.entry? path with
  | some (.directory entries) => .ok (.directory entries)
  | some (.file _) => .error (.notADirectory path)
  | none => .error (.missing path)

/-- The name of a repository's ignore file. -/
def ignoreFile : String := ".gitignore"

/-- The rules in the ignore file of a repository. -/
def ignoreFileRules (w : Workspace) (path : String) (repository : Entry) :
    Except Failure (List IgnoreRule) :=
  match repository.child? ignoreFile with
  | none => .ok []
  | some (.file bytes) =>
    .ok ((Text.fileLines (Text.decodeLenient bytes)).filterMap IgnoreRule.ofLine?)
  | some (.directory _) =>
    .error (.isADirectory (w.absolute ((w.places? path).getD [] ++ [ignoreFile])))

/-- What a scan chose and how many tests it skipped. -/
structure Choice where
  /-- The paths in the order of the walk. -/
  paths : List String
  /-- The number of tests left out. -/
  skippedTests : Nat
  deriving Repr

/-- The choice among walked paths. -/
def choose (settings : ScanSettings) (walked : List String) : Choice where
  paths := upTo settings.limit (walked.filter (isChosen settings))
  skippedTests := (walked.filter (isSkippedTest settings)).length

/-- Chooses the files of the repository at a path. -/
def scan (w : Workspace) (settings : ScanSettings) (path : String) : Except Failure Choice := do
  let repository ← repositoryAt w path
  let written ← ignoreFileRules w path repository
  let rules := written ++ settings.excludePaths.filterMap fun text => IgnoreRule.ofText? text false
  return choose settings (repository.walk rules "")

/-- The records that a scan leaves. -/
def Choice.records (c : Choice) : List Log.Record :=
  if c.skippedTests == 0 then []
  else [⟨.info, Log.loggerName (some "scanner"),
    "Excluded " ++ toString c.skippedTests ++ " test files from analysis"⟩]

/-! ## Reading -/

/-- The size that a directory is taken to have. -/
def directorySize : Nat := 4096

/-- The text of the file at a path in a repository, and the records that
reading it leaves. What is too large or cannot be read counts as empty. The
file is looked for where the scan looked for the repository. -/
def readSource (w : Workspace) (settings : ScanSettings) (repository path : String) :
    String × List Log.Record :=
  let warn (message : String) : String × List Log.Record :=
    ("", [⟨.warning, Log.loggerName (some "scanner"), message⟩])
  let tooLarge (size : Nat) : String × List Log.Record :=
    warn ("Skipping " ++ path ++ ": file size " ++ toString size ++ " bytes exceeds limit of " ++
      toString settings.maxFileSize ++ " bytes")
  match w.found? (Path.join (w.seen repository) path) with
  | some (.file bytes) =>
    if settings.maxFileSize < (bytes.size : Int) then tooLarge bytes.size
    else match Text.decode? bytes with
      | some text => (text, [])
      | none => warn ("Could not read " ++ path)
  | some (.directory _) =>
    if settings.maxFileSize < (directorySize : Int) then tooLarge directorySize
    else warn ("Could not read " ++ path)
  | none => warn ("Could not read " ++ path)

end RepoSurvey.Scan
