import RepoSurvey.Config
import RepoSurvey.Decimal.Fixed
import RepoSurvey.Detection.Framework.Known
import RepoSurvey.Detection.Framework.Score
import RepoSurvey.Detection.Statistics
import RepoSurvey.Log

/-!
# The report on frameworks

The settings of a configuration as a way to weigh, the statistics of what was
detected, and the records that weighing leaves.
-/

namespace RepoSurvey.Detection.Framework

/-- The settings as a way to weigh. -/
def ofSettings (settings : DetectionSettings) : Weighing Float where
  damping := settings.damping
  floor := settings.floor

/-- The frameworks by name with their confidence. -/
def confidences (found : List (FrameworkDetection Float)) : Table Float :=
  found.foldl (fun t d => Table.set t d.name d.confidence) []

/-- The statistics of detections. -/
def statistics (found : List (FrameworkDetection Float)) : Json :=
  .obj [
    ("total_detected", .nat found.length),
    ("frameworks", Json.table .real (confidences found)),
    ("files_with_evidence", .nat (distinct (found.flatMap fun d => d.evidence)).length)]

/-- What a report says about a profile. -/
def Profile.toJson (p : Profile) : Json :=
  .obj [
    ("name", .str p.name),
    ("min_confidence", .real p.least),
    ("pattern_count", .nat p.signs.length),
    ("primary_languages", Json.strings p.languages)]

/-- The report on the frameworks found in a corpus. -/
def reportOf (profiles : List Profile) (found : List (FrameworkDetection Float)) (corpus : Corpus) :
    Json :=
  let detections := found.map FrameworkDetection.toJson
  .obj [
    ("summary", statistics found),
    ("findings", .arr detections),
    ("breakdown", breakdown corpus),
    ("total_files", .nat corpus.length),
    ("detected_frameworks", .arr detections),
    ("language_distribution", Json.table .nat (languageDistribution corpus)),
    ("supported_frameworks", .arr (profiles.map Profile.toJson))]

/-- The records of weighing: one for each framework with evidence. -/
def records (w : Weighing Float) (profiles : List Profile) (corpus : Corpus) : List Log.Record :=
  profiles.filterMap fun p =>
    let score := (evidence profiles p.name corpus).score
    let scale := scale w p corpus
    if score == 0 then none
    else some ⟨.debug, Log.loggerName (some "patterns.framework"),
      p.name ++ ": " ++ Decimal.fixed 1 (Float.ofNat score) ++ "/" ++ Decimal.fixed 1 scale ++
        " = " ++ Decimal.fixed 3 (confidence score scale) ++
        " (threshold " ++ Decimal.fixed 2 p.least ++ ")"⟩

end RepoSurvey.Detection.Framework
