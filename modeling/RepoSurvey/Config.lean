import RepoSurvey.Config.Setting
import RepoSurvey.Decimal.Spelled
import RepoSurvey.Text.Cut
import RepoSurvey.Text.Decoding
import RepoSurvey.Text.Lines

/-!
# Configuration

How a repository is to be analysed: which files are looked at, how the
evidence for frameworks is weighed, and what the result contains. Every part
has defaults, and a configuration file changes what it mentions. A value that
cannot be understood leaves the default; a number outside its range is refused.
-/

namespace RepoSurvey

/-- Which files are looked at. -/
structure ScanSettings where
  /-- The extensions of source files. -/
  extensions : List String :=
    [".js", ".jsx", ".ts", ".tsx", ".py", ".dart", ".java", ".c", ".cpp", ".h"]
  /-- Patterns of paths that are left out. -/
  excludePaths : List String := []
  /-- Test files are left out. -/
  excludeTests : Bool := true
  /-- At most so many files are taken. -/
  limit : Option Int := none
  /-- Larger files count as empty. -/
  maxFileSize : Int := 1024 * 1024
  deriving Repr

/-- How the evidence for frameworks is weighed. -/
structure DetectionSettings where
  /-- The share of the possible score that counts as certainty. -/
  damping : Float := 0.6
  /-- The least score that counts as certainty. -/
  floor : Float := 10.0
  deriving Repr

/-- What the result contains. -/
structure AggregationSettings where
  /-- Frameworks are part of the summary. -/
  includeFrameworks : Bool := true
  /-- Circular dependencies are looked for. -/
  detectCycles : Bool := true
  /-- Longer circles are left out. -/
  maxCycleDepth : Option Int := some 10
  deriving Repr

/-- A whole configuration. -/
structure Config where
  /-- Which files are looked at. -/
  scan : ScanSettings := {}
  /-- How the evidence for frameworks is weighed. -/
  detection : DetectionSettings := {}
  /-- What the result contains. -/
  aggregation : AggregationSettings := {}
  deriving Repr

/-- Why a configuration file is refused. -/
inductive ConfigError where
  /-- It is no text. -/
  | undecodable (bytes : Text.BrokenBytes)
  /-- It is a directory. -/
  | directory
  /-- Its text has no value. -/
  | unreadable (problem : Yaml.Problem)
  /-- Its value is no mapping. -/
  | notAMapping
  /-- The size limit is not positive. -/
  | sizeNotPositive
  /-- The damping factor is not positive. -/
  | dampingNotPositive
  /-- The least score is not positive. -/
  | floorNotPositive
  /-- A number is too large for its use. -/
  | excessive (excess : Setting.Excess)
  deriving Repr, DecidableEq

namespace Config

/-- The name of the file that configures a repository. -/
def fileName : String := ".codeintel.yml"

/-- The message of an error in the content of the configuration file `name`;
errors of other kinds have none. -/
def errorMessage? (name : String) : ConfigError → Option String
  | .unreadable .malformed => some ("Failed to parse " ++ name)
  | .notAMapping => some (fileName ++ " must contain a mapping at the root")
  | .sizeNotPositive => some "scan.max_file_size must be a positive integer"
  | .dampingNotPositive => some "detection.damping_factor must be greater than zero"
  | .floorNotPositive => some "detection.min_max_score must be greater than zero"
  | _ => none

/-- The message of a value in the configuration file `name` that cannot be
read, or of an error in its content; errors of other kinds have none. -/
def valueMessage? (name : String) : ConfigError → Option String
  | .undecodable bytes => some bytes.message
  | .unreadable .badNumber => some "invalid number"
  | .excessive .tooManyDigits => some (Decimal.digitsMessage "")
  | e => errorMessage? name e

/-- An extension in lower case with its point. -/
def normalExtension (text : String) : String :=
  let bare := Text.lower (Text.trim text)
  if Text.startsWith bare "." then bare else "." ++ bare

/-- Turns an excess into an error. -/
def orExcessive {α : Type} : Except Setting.Excess α → Except ConfigError α
  | .ok a => .ok a
  | .error excess => .error (.excessive excess)

/-- The section on files. -/
def scanOf (entries : Table Setting) : Except ConfigError ScanSettings := do
  let base : ScanSettings := {}
  let extensions ←
    if entries.has "extensions" then
      (·.map normalExtension) <$> orExcessive (entries.setting "extensions").texts
    else pure base.extensions
  let excludePaths ← orExcessive (entries.setting "exclude_paths").texts
  let maxFileSize := ((entries.setting "max_file_size").int?).getD base.maxFileSize
  if maxFileSize ≤ 0 then throw .sizeNotPositive
  return {
    extensions := extensions
    excludePaths := excludePaths
    excludeTests := ((entries.setting "exclude_test_files").bool?).getD base.excludeTests
    limit := (entries.setting "limit").int?
    maxFileSize := maxFileSize }

/-- A real setting that must not be zero or less. -/
def positive (entries : Table Setting) (key : String) (default : Float) (refusal : ConfigError) :
    Except ConfigError Float := do
  match ← orExcessive (entries.setting key).real? with
  | none => return default
  | some x => if x ≤ 0 then throw refusal else return x

/-- The section on frameworks. -/
def detectionOf (entries : Table Setting) : Except ConfigError DetectionSettings := do
  let base : DetectionSettings := {}
  let damping ← positive entries "damping_factor" base.damping .dampingNotPositive
  let floor ← positive entries "min_max_score" base.floor .floorNotPositive
  return { damping := damping, floor := floor }

/-- The section on the result. -/
def aggregationOf (entries : Table Setting) : AggregationSettings :=
  let base : AggregationSettings := {}
  { includeFrameworks := ((entries.setting "include_frameworks").bool?).getD base.includeFrameworks
    detectCycles := ((entries.setting "detect_circular_dependencies").bool?).getD base.detectCycles
    maxCycleDepth :=
      if entries.has "max_circular_depth" then (entries.setting "max_circular_depth").int?
      else base.maxCycleDepth }

/-- The configuration that the entries of a file give. -/
def ofEntries (entries : Table Setting) : Except ConfigError Config := do
  let scan ← scanOf (entries.setting "scan").section?
  let detection ← detectionOf (entries.setting "detection").section?
  return { scan := scan, detection := detection
           aggregation := aggregationOf (entries.setting "aggregation").section? }

/-- The entries of a configuration text. A blank text, and one without a value, has none. -/
def entriesOfText (text : String) (reader : Setting.Reader := Setting.ofYaml) :
    Except ConfigError (Table Setting) :=
  if (Text.trim text).isEmpty then .ok []
  else match reader text with
    | .error problem => .error (.unreadable problem)
    | .ok (.record entries) => .ok entries
    | .ok .null => .ok []
    | .ok _ => .error .notAMapping

/-- The configuration that a text gives. -/
def ofText (text : String) (reader : Setting.Reader := Setting.ofYaml) :
    Except ConfigError Config := do
  ofEntries (← entriesOfText text reader)

/-- The configuration in the bytes of a file. -/
def ofBytes (bytes : ByteArray) (reader : Setting.Reader := Setting.ofYaml) :
    Except ConfigError Config :=
  match String.fromUTF8? bytes with
  | some text => ofText (String.ofList (Text.unifyLineEnds text.toList)) reader
  | none => .error (.undecodable ((Text.broken? bytes.toList).getD ⟨0, 0, 0, .cutShort⟩))

end Config

end RepoSurvey
